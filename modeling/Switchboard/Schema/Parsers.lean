import Switchboard.Schema.Shape

/-!
# Ready-made parsers

Parsers for types of common forms: text in capitals, a fixed value, a value inside an object, JSON
inside text, an object with a schema of its own, a pair in one text. Two more refuse every value
and crash on every value; they show what becomes of a field whose parser fails.
-/

namespace Switchboard

namespace TypeParser

/-- Text, with the letters `a` to `z` in capitals. -/
def upper : TypeParser where
  parse v _ := match v with
    | .string s => .parsed (.string (String.ofList (s.toList.map Char.toUpper)))
    | _ => .refused (.invalid "expected a string")

/-- The same value for every value. -/
def const (value : Json) : TypeParser where
  parse _ _ := .parsed value

/-- An object that holds the raw value. -/
def wrap : TypeParser where
  parse v _ := .parsed (.object [("raw", v)])

/-- Refuses every value. -/
def fail : TypeParser where
  parse _ _ := .refused (.invalid "always")

/-- Crashes on every value. -/
def crash : TypeParser where
  parse _ _ := .crashed

/-- The value that a text of JSON holds. -/
def json : TypeParser where
  parse v _ := match v with
    | .string s =>
      match Json.read s with
      | .ok value => .parsed value
      | .error fault => .refused (.json fault)
    | _ => .refused (.invalid "text")

/-- An object, shaped by a schema. -/
def record (schema : Schema) : TypeParser where
  parse v shape := match v, shape with
    | .object members, shape =>
      .parsed (.object (schema.shapeWith members fun entry h f =>
        shape entry.2 (Json.size_lt_of_mem_object h) f))
    | _, _ => .refused (.invalid "expected an object")

theorem length_fst_of_splitOnce {sep : Char} {cs before after : List Char}
    (h : Text.splitOnce sep cs = some (before, after)) : before.length < cs.length := by
  induction cs generalizing before after with
  | nil => cases h
  | cons c rest ih =>
    simp only [Text.splitOnce] at h
    split at h
    · cases h; simp
    · simp only [Option.map_eq_some_iff, Prod.mk.injEq, Prod.exists] at h
      obtain ⟨b, a, hb, rfl, rfl⟩ := h
      have := ih hb
      simp only [List.length_cons]
      omega

/-- A text of two parts with a space between them: the first part shaped by a field, the second one
as it is. -/
def pair (field : Field) : TypeParser where
  parse v shape := match v, shape with
    | .string s, shape =>
      match h : Text.splitOnce ' ' s.toList with
      | some (first, second) =>
        .parsed (.array
          [shape (.string (String.ofList first)) (by
            have := length_fst_of_splitOnce h
            simp only [Json.size, String.toList_ofList]
            omega) field,
          .string (String.ofList second)])
      | none => .refused (.invalid "no space")
    | _, _ => .refused (.invalid "expected text")

end TypeParser

end Switchboard
