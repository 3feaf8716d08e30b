import PostalAddress.Table
import PostalAddress.Template.Compile

/-!
# Compiled templates that are kept

A template cache keeps compiled templates by key; what it keeps, and for how long, is its own
affair. `Cache` keeps everything in memory, or nothing. Only sources that compile enter a cache.
-/

namespace PostalAddress

class TemplateCache (σ : Type) where
  get? : σ → String → Option Template
  insert : String → Template → σ → σ
  clear : σ → σ

/-- The compiled source, kept or new, and the cache afterwards. -/
def TemplateCache.compile {σ : Type} [TemplateCache σ] (c : σ) (source : String) (d : Delimiters) :
    Except TemplateError Template × σ :=
  let key := d.cacheKey source
  match get? c key with
  | some t => (.ok t, c)
  | none =>
    match Template.compile source d with
    | .ok t => (.ok t, insert key t c)
    | .error e => (.error e, c)

inductive Cache
  | off
  | memory (templates : Table Template)

namespace Cache

def empty : Cache := .memory ∅

def get? : Cache → String → Option Template
  | .off, _ => none
  | .memory ts, key => ts.get? key

def insert (key : String) (t : Template) : Cache → Cache
  | .off => .off
  | .memory ts => .memory (ts.insert key t)

def clear : Cache → Cache
  | .off => .off
  | .memory _ => empty

def size : Cache → Nat
  | .off => 0
  | .memory ts => ts.size

@[default_instance] instance : TemplateCache Cache := ⟨get?, insert, clear⟩

end Cache

end PostalAddress
