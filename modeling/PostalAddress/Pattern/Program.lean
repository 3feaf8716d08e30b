import PostalAddress.Pattern.Node

/-!
# Programs

A node as a list of numbered steps. A step that reads or checks goes on with the step after it; a
`split` prefers its first target. A loop whose body may read nothing decides at its end whether to
go on, so that its body is tried at least once when it is tried at all.
-/

namespace PostalAddress

open Text (CodeSet)

inductive Step
  | char (c : Char)
  | set (s : CodeSet)
  | look (l : Look)
  | save (slot : Nat)
  | split (first second : Nat)
  | jump (target : Nat)
  | done
deriving DecidableEq

namespace Step

/-- A greedy choice prefers to go on with the body of a repetition. -/
def choose (greedy : Bool) (body exit : Nat) : Step :=
  if greedy then .split body exit else .split exit body

end Step

namespace Node

/-- The number of steps of a node. -/
def width : Node → Nat
  | .empty => 0
  | .literal cs => cs.length
  | .set _ => 1
  | .look _ => 1
  | .group _ body => width body + 2
  | .seq a b => width a + width b
  | .alt a b => width a + width b + 2
  | .loop least (some most) _ body => least * width body + (most - least) * (width body + 1)
  | .loop 0 none _ body => width body + 2
  | .loop (least + 1) none _ body => (least + 1) * width body + 1

/-- `n` copies of a body of width `w`, the first of them at `base`. -/
def copies (steps : Nat → List Step) (w n base : Nat) : List Step :=
  (List.range n).flatMap fun i => steps (base + i * w)

/-- The steps of a node, the first of which has the number `base`. -/
def steps : Node → (base : Nat) → List Step
  | .empty, _ => []
  | .literal cs, _ => cs.map .char
  | .set s, _ => [.set s]
  | .look l, _ => [.look l]
  | .group i body, base => .save (2 * i) :: steps body (base + 1) ++ [.save (2 * i + 1)]
  | .seq a b, base => steps a base ++ steps b (base + a.width)
  | .alt a b, base =>
    let second := base + a.width + 2
    .split (base + 1) second :: steps a (base + 1) ++
      .jump (second + b.width) :: steps b second
  | .loop least (some most) greedy body, base =>
    let w := body.width
    let optional := base + least * w
    let exit := optional + (most - least) * (w + 1)
    copies (steps body) w least base ++
      copies (fun base => .choose greedy (base + 1) exit :: steps body (base + 1))
        (w + 1) (most - least) optional
  | .loop 0 none greedy body, base =>
    let exit := base + body.width + 2
    .choose greedy (base + 1) exit :: steps body (base + 1) ++
      [if body.reads then .jump base else .choose greedy (base + 1) exit]
  | .loop (least + 1) none greedy body, base =>
    let last := base + least * body.width
    copies (steps body) body.width (least + 1) base ++
      [.choose greedy last (last + body.width + 1)]

end Node

abbrev Program := Array Step

def Node.program (n : Node) : Program := (n.steps 0 ++ [Step.done]).toArray

end PostalAddress
