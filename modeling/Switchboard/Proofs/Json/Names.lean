import Switchboard.Json.Reader
import Switchboard.Proofs.Entries
import Switchboard.Proofs.Json.Decoding

/-!
# Names in objects

An object may be made with two members of one name.  An object that is read from a text never has
two, and neither has any object inside of it, as a repeated name takes the place of the first
(`namesOnce_of_read`).  What is decoded from such a value member by member is a map with each name
once (`NamesOnce.distinct_decodeMap`).
-/

namespace Switchboard.Json

/-- No object in the value has two members of one name. -/
inductive NamesOnce : Json → Prop
  | null : NamesOnce .null
  | bool (b : Bool) : NamesOnce (.bool b)
  | number (n : Number) : NamesOnce (.number n)
  | string (s : String) : NamesOnce (.string s)
  | array {items : List Json} (hitems : ∀ item ∈ items, NamesOnce item) : NamesOnce (.array items)
  | object {members : Entries Json} (hnames : Entries.Distinct members)
      (hmembers : ∀ member ∈ members, NamesOnce member.2) : NamesOnce (.object members)

attribute [simp] NamesOnce.null NamesOnce.bool NamesOnce.number NamesOnce.string

@[simp] theorem namesOnce_array_iff {items : List Json} :
    NamesOnce (.array items) ↔ ∀ item ∈ items, item.NamesOnce := by
  constructor
  · intro h
    cases h
    assumption
  · exact .array

@[simp] theorem namesOnce_object_iff {members : Entries Json} :
    NamesOnce (.object members) ↔ members.Distinct ∧ ∀ member ∈ members, member.2.NamesOnce := by
  constructor
  · intro h
    cases h with
    | object hnames hmembers => exact ⟨hnames, hmembers⟩
  · exact fun ⟨hnames, hmembers⟩ => .object hnames hmembers

namespace NamesOnce

theorem empty : NamesOnce (.object []) := .object List.nodup_nil (by simp)

theorem set {members : Entries Json} (h : NamesOnce (.object members)) (key : String)
    {value : Json} (hvalue : value.NamesOnce) :
    NamesOnce (.object (Entries.set members key value)) := by
  obtain ⟨hnames, hmembers⟩ := namesOnce_object_iff.1 h
  refine .object (hnames.set key value) ?_
  rintro ⟨name, v⟩ hmember
  rcases Entries.mem_set hmember with heq | hmem
  · obtain ⟨-, rfl⟩ := Prod.mk.inj heq
    exact hvalue
  · exact hmembers (name, v) hmem

theorem of_mem_recordMembers {value : Json} (h : value.NamesOnce) {record : Record}
    {members : List (String × Json)} (hmembers : recordMembers record value = .ok members)
    {member : String × Json} (hmember : member ∈ members) : member.2.NamesOnce := by
  cases value with
  | object =>
      obtain rfl := Except.ok.inj hmembers
      exact (namesOnce_object_iff.1 h).2 member hmember
  | array =>
      obtain rfl := Except.ok.inj hmembers
      exact namesOnce_array_iff.1 h member.2 (List.of_mem_zip hmember).2
  | null | bool | number | string => simp [recordMembers] at hmembers

theorem distinct_decodeMap {value : Json} (h : value.NamesOnce) {α : Type}
    {decode : Json → Decoded α} {entries : Entries α}
    (hentries : decodeMap decode value = .ok entries) : entries.Distinct := by
  cases value with
  | object =>
      have hkeys := keys_of_decodeMap hentries
      rw [members] at hkeys
      unfold Entries.Distinct
      rw [hkeys]
      exact (namesOnce_object_iff.1 h).1
  | null | bool | number | string | array => simp [decodeMap] at hentries

end NamesOnce

/-! ## Reading -/

/-- No reader makes an object with two members of one name out of the text. -/
private structure ReadsOnce (s : List Char) : Prop where
  value : ∀ {depth v rest}, readValue depth s = .ok (v, rest) → v.NamesOnce
  items : ∀ {depth first done items rest}, (∀ item ∈ done, item.NamesOnce) →
    readItems depth first done s = .ok (items, rest) → ∀ item ∈ items, item.NamesOnce
  members : ∀ {depth first done members rest}, NamesOnce (.object done) →
    readMembers depth first done s = .ok (members, rest) → NamesOnce (.object members)

private theorem exists_of_bind_consumed {α β : Type} {s : List Char} {x : Except JsonFault β}
    {value : β → α} {after : β → List Char} {v : α} {rest : Rest s}
    (h : (x.bind fun b => consumed s (after b) (value b)) = .ok (v, rest)) : ∃ b, value b = v := by
  obtain ⟨b, -, h⟩ := exists_of_bind_eq_ok h
  refine ⟨b, ?_⟩
  unfold consumed at h
  split at h
  · cases h
    rfl
  · cases h

-- The cases of the next three are the branches of the readers, in their order.
private theorem readValue_namesOnce {s : List Char} {depth : Nat} {v : Json} {rest : Rest s}
    (hshorter : ∀ r : List Char, r.length < s.length → ReadsOnce r)
    (h : readValue depth s = .ok (v, rest)) : v.NamesOnce := by
  cases s with
  | nil =>
      unfold readValue at h
      cases h
  | cons c tail =>
      have htail := hshorter tail (by simp)
      unfold readValue at h
      split at h
      · split at h
        · cases h
        · rename_i hread
          cases h
          exact htail.value hread
      split at h
      · obtain ⟨-, rfl⟩ := exists_of_bind_consumed h
        exact .null
      split at h
      · obtain ⟨-, rfl⟩ := exists_of_bind_consumed h
        exact .bool true
      split at h
      · obtain ⟨-, rfl⟩ := exists_of_bind_consumed h
        exact .bool false
      split at h
      · obtain ⟨n, rfl⟩ := exists_of_bind_consumed h
        exact .number n.1
      split at h
      · obtain ⟨n, rfl⟩ := exists_of_bind_consumed h
        exact .number n.1
      split at h
      · split at h
        · cases h
        · cases h
          exact .string _
      split at h
      · split at h
        · cases h
        · split at h
          · cases h
          · rename_i hread
            cases h
            exact .array (htail.items (by simp) hread)
      split at h
      · split at h
        · cases h
        · split at h
          · cases h
          · rename_i hread
            cases h
            exact htail.members .empty hread
      · cases h

private theorem readItems_namesOnce {s : List Char} {depth : Nat} {first : Bool}
    {done items : List Json} {rest : Rest s}
    (hshorter : ∀ r : List Char, r.length < s.length → ReadsOnce r)
    (hdone : ∀ item ∈ done, item.NamesOnce)
    (h : readItems depth first done s = .ok (items, rest)) : ∀ item ∈ items, item.NamesOnce := by
  unfold readItems at h
  split at h
  · cases h
  split at h
  · cases h
    intro item hitem
    exact hdone item (List.mem_reverse.1 hitem)
  dsimp only at h
  split at h
  · cases h
  rename_i start hstart hsep
  split at h
  · cases h
  rename_i value r hr hread
  split at h
  · cases h
  rename_i hothers
  cases h
  -- the value may begin where the items begin
  have hvalue : value.NamesOnce := readValue_namesOnce (fun t ht => hshorter t (by omega)) hread
  refine (hshorter r (by omega)).items ?_ hothers
  intro item hitem
  rcases List.mem_cons.1 hitem with rfl | hitem
  · exact hvalue
  · exact hdone item hitem

private theorem readMembers_namesOnce {s : List Char} {depth : Nat} {first : Bool}
    {done members : Entries Json} {rest : Rest s}
    (hshorter : ∀ r : List Char, r.length < s.length → ReadsOnce r)
    (hdone : NamesOnce (.object done))
    (h : readMembers depth first done s = .ok (members, rest)) : NamesOnce (.object members) := by
  unfold readMembers at h
  split at h
  · cases h
  split at h
  · cases h
    exact hdone
  dsimp only at h
  split at h
  · cases h
  rename_i start hstart hopened
  split at h
  · cases h
  rename_i key afterKey hkey
  split at h
  · cases h
  rename_i colon afterColon hcolon
  have hlength : afterColon.length < start.length := by
    have hstring := length_readString hkey
    have hspace := length_skipSpace_le afterKey
    rw [hcolon, List.length_cons] at hspace
    omega
  split at h
  · split at h
    · cases h
    rename_i value r hr hread
    split at h
    · cases h
    rename_i hothers
    cases h
    have hvalue : value.NamesOnce := (hshorter afterColon (by omega)).value hread
    exact (hshorter r (by omega)).members (hdone.set key hvalue) hothers
  · cases h

private theorem readsOnce (s : List Char) : ReadsOnce s := by
  have hshorter : ∀ r : List Char, r.length < s.length → ReadsOnce r := fun r _ => readsOnce r
  exact ⟨readValue_namesOnce hshorter, readItems_namesOnce hshorter,
    readMembers_namesOnce hshorter⟩
termination_by s.length

/-- No object that is read from a text has two members of one name. -/
theorem namesOnce_of_read {text : String} {value : Json} (h : read text = .ok value) :
    value.NamesOnce := by
  unfold read at h
  split at h
  · cases h
  rename_i hread
  split at h
  · cases h
    exact (readsOnce text.toList).value hread
  · cases h

end Switchboard.Json
