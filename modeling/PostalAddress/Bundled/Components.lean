import PostalAddress.Address.Component

/-!
# Bundled components

The canonical components of an address and their aliases. No key is listed twice, so the index of
the table has them all in their order.
-/

namespace PostalAddress.Bundled

def componentList : List Component :=
  [⟨"attention", []⟩,
   ⟨"house", ["building", "public_building", "isolated_dwelling", "farmland", "allotments"]⟩,
   ⟨"house_number", ["street_number", "housenumber"]⟩,
   ⟨"road",
     ["footway", "street", "street_name", "residential", "path", "pedestrian", "road_reference",
      "road_reference_intl", "square", "place"]⟩,
   ⟨"hamlet", ["locality", "croft"]⟩,
   ⟨"village", []⟩,
   ⟨"neighbourhood",
     ["suburb", "city_district", "quarter", "borough", "city_block", "commercial", "houses",
      "subdistrict", "subdivision", "ward"]⟩,
   ⟨"postal_city", []⟩,
   ⟨"city", ["town", "township"]⟩,
   ⟨"municipality", ["local_administrative_area", "subcounty"]⟩,
   ⟨"county", ["county_code", "department"]⟩,
   ⟨"state_district", ["district"]⟩,
   ⟨"state", ["province", "state_code"]⟩,
   ⟨"region", []⟩,
   ⟨"island", []⟩,
   ⟨"archipelago", []⟩,
   ⟨"postcode", ["postal_code"]⟩,
   ⟨"country", ["country_name"]⟩,
   ⟨"country_code", []⟩,
   ⟨"continent", []⟩]

def components : ComponentTable where
  list := componentList
  index := ⟨Component.listing componentList, by decide +kernel⟩
  index_eq := by decide +kernel

end PostalAddress.Bundled
