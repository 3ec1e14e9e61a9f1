import RtcPlugin.Json.Stringify

/-! What a value reads as in a text.

An array joins its elements, and an object that has a `toString` of its own throws: a
property that was parsed is no function. -/
namespace RtcPlugin.Json

mutual
/-- `String(v)`; nothing where it throws, on an object with a `toString` that is no function. -/
def toText : Json → Option (List Char)
  | .null => some ['n', 'u', 'l', 'l']
  | .bool b => some (text (.bool b))
  | .num d => some d.text
  | .str s => some s.toList
  | .arr elems => joinText elems
  | .obj members => if members.any (·.1 == "toString") then none else some "[object Object]".toList

/-- `elems.join(",")` -/
def joinText : List Json → Option (List Char)
  | [] => some []
  | [v] => elemText v
  | v :: rest => do
    let first ← elemText v
    let others ← joinText rest
    some (first ++ ',' :: others)

def elemText : Json → Option (List Char)
  | .null => some []
  | v => v.toText
end

end RtcPlugin.Json

namespace RtcPlugin

/-- `v ?? undefined` -/
def present : Option Json → Option Json
  | some .null => none
  | v => v

end RtcPlugin
