import Switchboard.Text.Split

/-!
# Media types

The form of a body is named by a media type such as `application/json; charset=utf-8`: a kind, a
slash, a subtype, and parameters, each a name with a value. A subtype may have a suffix behind a
plus sign, as in `application/problem+json`. `MediaType.isJson` says whether a body is JSON.
-/

namespace Switchboard

namespace MediaType

/-- The character may stand in a name without quotation marks. -/
def isTokenChar (c : Char) : Bool :=
  c.isAlphanum
    || ['!', '#', '$', '%', '&', '\'', '*', '+', '-', '.', '^', '_', '`', '|', '~'].contains c

/-- How far the parameters have been read. -/
inductive Place where
  | beforeName
  | inName
  | beforeValue
  | inValue
  /-- Right behind the opening quotation mark, where a second one does not close the value. -/
  | opened
  | inQuotes
  | afterQuotes
  deriving DecidableEq, Repr

namespace Place

/-- The place behind one more character, or nothing where the character has no place. -/
def step : Place → Char → Option Place
  | beforeName, c =>
    if c = ' ' then some beforeName else if isTokenChar c then some inName else none
  | inName, c => if c = '=' then some beforeValue else if isTokenChar c then some inName else none
  | beforeValue, c => if c = '"' then some opened else if isTokenChar c then some inValue else none
  | inValue, c => if c = ';' then some beforeName else if isTokenChar c then some inValue else none
  | opened, c => if 31 < c.toNat ∧ c.toNat ≠ 127 then some inQuotes else none
  | inQuotes, c =>
    if c = '"' then some afterQuotes
    else if 31 < c.toNat ∧ c.toNat ≠ 127 then some inQuotes
    else none
  | afterQuotes, c =>
    if c = ';' then some beforeName else if c = ' ' then some afterQuotes else none

/-- The parameters may end here. -/
def isEnd : Place → Bool
  | inName | opened | inQuotes => false
  | beforeName | beforeValue | inValue | afterQuotes => true

end Place

/-- The text is a list of parameters. -/
def areParameters (cs : List Char) : Bool :=
  match cs.foldlM Place.step Place.beforeName with
  | some place => place.isEnd
  | none => false

/-- The subtype without its suffix, and the suffix. -/
def splitSuffix (subtype : List Char) : List Char × Option (List Char) :=
  let (suffix, rest) := subtype.reverse.span (· != '+')
  match rest with
  | _ :: c :: stem => ((c :: stem).reverse, some suffix.reverse)
  | _ => (subtype, none)

/-- The name of JSON as a subtype and as a suffix. -/
def jsonName : List Char := ['j', 's', 'o', 'n']

/-- The media type is well formed, and is that of JSON. -/
def isJson (text : String) : Bool :=
  let (name, parameters) := text.toList.span (· != ';')
  match Text.splitOnce '/' (name.map Char.toLower) with
  | none => false
  | some (kind, subtype) =>
    let isToken := fun (cs : List Char) => !cs.isEmpty && cs.all isTokenChar
    let (stem, suffix) := splitSuffix subtype
    isToken kind && isToken subtype && areParameters (parameters.drop 1)
      && (stem == jsonName || suffix == some jsonName)

end MediaType

end Switchboard
