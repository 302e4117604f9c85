import Switchboard.Proofs.Entries
import Switchboard.Proofs.Json.Tokens

/-!
# JSON text is read back

A value is read back from its text where nothing in it is lost: its numbers must be read back from
theirs, no object may have two members of one name, and no more arrays and objects may be open at
once than a reader opens (`Json.Faithful`, `Json.Faithful.read_text`).  A number that drifts to its
neighbour is read as its neighbour (`Json.read_drifting`).

A value is read in front of anything that does not go on with a number (`Json.ReadsAt`), which is
what an array needs of its items and an object of its members: what follows a value there is a comma
or a closing bracket.
-/

namespace Switchboard.Json

/-- The value loses nothing in its text where so many arrays and objects may still be opened. -/
inductive Faithful : Nat → Json → Prop
  | null (depth : Nat) : Faithful depth .null
  | bool (depth : Nat) (b : Bool) : Faithful depth (.bool b)
  | number (depth : Nat) {n : Number} (h : n.ReadsBack) : Faithful depth (.number n)
  | string (depth : Nat) (s : String) : Faithful depth (.string s)
  | array {depth : Nat} {items : List Json} (hitems : ∀ item ∈ items, Faithful depth item) :
      Faithful (depth + 1) (.array items)
  | object {depth : Nat} {members : Entries Json} (hnames : members.Distinct)
      (hmembers : ∀ member ∈ members, Faithful depth member.2) :
      Faithful (depth + 1) (.object members)

variable {depth : Nat}

attribute [simp] Faithful.null Faithful.bool Faithful.string

@[simp] theorem faithful_number_iff {n : Number} : Faithful depth (.number n) ↔ n.ReadsBack := by
  constructor
  · intro h
    cases h with
    | number _ hn => exact hn
  · exact .number depth

@[simp] theorem faithful_array_iff {items : List Json} :
    Faithful (depth + 1) (.array items) ↔ ∀ item ∈ items, Faithful depth item := by
  constructor
  · intro h
    cases h with
    | array hitems => exact hitems
  · exact .array

@[simp] theorem faithful_object_iff {members : Entries Json} :
    Faithful (depth + 1) (.object members) ↔
      members.Distinct ∧ ∀ member ∈ members, Faithful depth member.2 := by
  constructor
  · intro h
    cases h with
    | object hnames hmembers => exact ⟨hnames, hmembers⟩
  · rintro ⟨hnames, hmembers⟩
    exact .object hnames hmembers

/-- A reader gives the value and leaves the rest. -/
def Yields {α : Type} {s : List Char} (result : Except JsonFault (α × Rest s)) (value : α)
    (rest : List Char) : Prop := ∃ h, result = .ok (value, ⟨rest, h⟩)

/-- The value is read from its text in front of whatever does not go on with a number. -/
structure ReadsAt (depth : Nat) (v : Json) : Prop where
  starts : ∃ c cs, v.render = c :: cs ∧ isSpace c = false ∧ c ≠ ']'
  reads (rest : List Char) (hrest : EndsNumber rest) :
    Yields (readValue depth (v.render ++ rest)) v rest

variable {rest : List Char}

theorem yields_consumed {α : Type} {s r : List Char} (h : r.length < s.length) (value : α) :
    Yields (consumed s r value) value r := ⟨h, dif_pos h⟩

theorem skipSpace_cons {c : Char} (h : isSpace c = false) (cs : List Char) :
    skipSpace (c :: cs) = c :: cs := List.dropWhile_cons_of_neg (by simp [h])

/-! ## Numbers, strings and words -/

/-- What is read as a number begins with a digit. -/
theorem exists_digit_of_readNumber {negative : Bool} {s after : List Char} {n : Number}
    (h : readNumber negative s = .ok (n, after)) : ∃ c cs, s = c :: cs ∧ c.isDigit = true := by
  obtain ⟨whole, afterWhole, _, _, _, hwhole, -⟩ := readNumber_eq_ok_iff.1 h
  cases s with
  | nil => cases hwhole
  | cons c cs =>
      refine ⟨c, cs, rfl, ?_⟩
      unfold readDigits at hwhole
      dsimp only at hwhole
      split at hwhole
      · assumption
      · cases hwhole

/-- A digit is no blank, closes nothing and begins nothing but a number. -/
theorem isDigit_ne {c : Char} (h : c.isDigit = true) :
    isSpace c = false ∧ c ≠ ']' ∧ c ≠ 'n' ∧ c ≠ 't' ∧ c ≠ 'f' ∧ c ≠ '-' := by
  have hne : ∀ d : Char, d.isDigit = false → c ≠ d := by
    rintro d hd rfl
    rw [h] at hd
    cases hd
  refine ⟨?_, hne _ (by decide), hne _ (by decide), hne _ (by decide), hne _ (by decide),
    hne _ (by decide)⟩
  simp [isSpace, hne ' ' (by decide), hne '\n' (by decide), hne '\t' (by decide),
    hne '\r' (by decide)]

/-- A number is read from its digits, behind its sign. -/
theorem yields_readValue_number {negative : Bool} {unsigned : List Char} {n : Number}
    (hread : readNumber negative unsigned = .ok (n, [])) (hrest : EndsNumber rest) :
    Yields (readValue depth ((if negative then ['-'] else []) ++ unsigned ++ rest)) (.number n)
      rest := by
  have hunsigned := readNumber_append hrest hread
  obtain ⟨c, cs, rfl, hdigit⟩ := exists_digit_of_readNumber hread
  obtain ⟨hspace, -, hn, ht, hf, hminus⟩ := isDigit_ne hdigit
  rw [List.cons_append] at hunsigned
  cases negative with
  | true =>
      show Yields (readValue depth ('-' :: (c :: (cs ++ rest)))) _ _
      unfold readValue
      rw [if_neg (by decide), if_neg (by decide), if_neg (by decide), if_neg (by decide),
        if_pos rfl, hunsigned]
      refine yields_consumed ?_ _
      simp only [List.length_cons, List.length_append, List.length_nil]
      omega
  | false =>
      show Yields (readValue depth (c :: (cs ++ rest))) _ _
      unfold readValue
      rw [if_neg (by simp [hspace]), if_neg hn, if_neg ht, if_neg hf, if_neg hminus,
        if_pos hdigit, hunsigned]
      refine yields_consumed ?_ _
      simp only [List.length_cons, List.length_append, List.length_nil]
      omega

theorem readsAt_number {n : Number} (h : n.ReadsBack) : ReadsAt depth (.number n) := by
  obtain ⟨negative, unsigned, htext, hread⟩ := h
  refine ⟨?_, fun rest hrest => ?_⟩
  · obtain ⟨c, cs, rfl, hdigit⟩ := exists_digit_of_readNumber hread
    obtain ⟨hspace, hbracket, -⟩ := isDigit_ne hdigit
    cases negative with
    | true => exact ⟨'-', c :: cs, htext, by decide, by decide⟩
    | false => exact ⟨c, cs, htext, hspace, hbracket⟩
  · rw [render, htext]
    exact yields_readValue_number hread hrest

theorem readsAt_null : ReadsAt depth .null := by
  refine ⟨⟨'n', _, rfl, by decide, by decide⟩, fun rest _ => ?_⟩
  show Yields (readValue depth ('n' :: 'u' :: 'l' :: 'l' :: rest)) _ _
  unfold readValue
  rw [if_neg (by decide), if_pos rfl]
  exact yields_consumed (by simp only [List.length_cons]; omega) _

theorem readsAt_bool (b : Bool) : ReadsAt depth (.bool b) := by
  cases b with
  | true =>
      refine ⟨⟨'t', _, rfl, by decide, by decide⟩, fun rest _ => ?_⟩
      show Yields (readValue depth ('t' :: 'r' :: 'u' :: 'e' :: rest)) _ _
      unfold readValue
      rw [if_neg (by decide), if_neg (by decide), if_pos rfl]
      exact yields_consumed (by simp only [List.length_cons]; omega) _
  | false =>
      refine ⟨⟨'f', _, rfl, by decide, by decide⟩, fun rest _ => ?_⟩
      show Yields (readValue depth ('f' :: 'a' :: 'l' :: 's' :: 'e' :: rest)) _ _
      unfold readValue
      rw [if_neg (by decide), if_neg (by decide), if_neg (by decide), if_pos rfl]
      exact yields_consumed (by simp only [List.length_cons]; omega) _

theorem readsAt_string (s : String) : ReadsAt depth (.string s) := by
  refine ⟨⟨'"', _, by rw [render, stringText], by decide, by decide⟩, fun rest _ => ?_⟩
  have htext : (Json.string s).render ++ rest =
      '"' :: (s.toList.flatMap escapeChar ++ '"' :: rest) := by
    simp [render, stringText]
  rw [htext]
  refine ⟨by simp only [List.length_cons, List.length_append]; omega, ?_⟩
  unfold readValue
  rw [if_neg (by decide), if_neg (by decide), if_neg (by decide), if_neg (by decide),
    if_neg (by decide), if_neg (by decide), if_pos rfl]
  split
  · rename_i cause hcause
    rw [readString_stringText] at hcause
    cases hcause
  · rename_i text left hread
    rw [readString_stringText] at hread
    obtain ⟨rfl, rfl⟩ := Prod.mk.inj (Except.ok.inj hread)
    rfl

/-! ## Arrays -/

/-- The items behind the first one, each behind its comma. -/
def renderMore (items : List Json) : List Char := items.flatMap fun item => ',' :: item.render

theorem renderItems_cons (item : Json) (items : List Json) :
    renderItems (item :: items) = item.render ++ renderMore items := by
  induction items generalizing item with
  | nil => simp [renderItems, renderMore]
  | cons next items ih =>
      rw [renderItems, ih, renderMore, renderMore, List.flatMap_cons, List.cons_append]

theorem endsNumber_renderMore (items : List Json) (rest : List Char) :
    EndsNumber (renderMore items ++ ']' :: rest) := by
  intro c hc
  cases items with
  | nil =>
      obtain rfl := Option.some.inj hc
      decide
  | cons item items =>
      obtain rfl := Option.some.inj hc
      decide

section Items

variable {s tail left : List Char} {c : Char} {done items : List Json} {v : Json}

theorem yields_readItems_close {first : Bool} (hs : skipSpace s = ']' :: rest) :
    Yields (readItems depth first done s) done.reverse rest := by
  have hlength := length_skipSpace_le s
  rw [hs, List.length_cons] at hlength
  refine ⟨by omega, ?_⟩
  unfold readItems
  split
  · rename_i hnil
    rw [hs] at hnil
    cases hnil
  · rename_i hcons
    obtain ⟨rfl, rfl⟩ := List.cons.inj (hs.symm.trans hcons)
    rfl

theorem yields_readItems_first (hs : skipSpace s = c :: tail) (hc : c ≠ ']')
    (hvalue : Yields (readValue depth (c :: tail)) v left)
    (hitems : Yields (readItems depth false (v :: done) left) items rest) :
    Yields (readItems depth true done s) items rest := by
  obtain ⟨hleft, hvalue⟩ := hvalue
  obtain ⟨hrest, hitems⟩ := hitems
  have hlength := length_skipSpace_le s
  rw [hs] at hlength
  refine ⟨by omega, ?_⟩
  unfold readItems
  split
  · rename_i hnil
    rw [hs] at hnil
    cases hnil
  · rename_i hcons
    obtain ⟨rfl, rfl⟩ := List.cons.inj (hs.symm.trans hcons)
    rw [if_neg hc]
    simp only [if_true, hvalue, hitems]

theorem yields_readItems_next (hs : skipSpace s = ',' :: tail)
    (htail : ∃ cs, skipSpace tail = c :: cs) (hc : c ≠ ']')
    (hvalue : Yields (readValue depth tail) v left)
    (hitems : Yields (readItems depth false (v :: done) left) items rest) :
    Yields (readItems depth false done s) items rest := by
  obtain ⟨cs, htail⟩ := htail
  obtain ⟨hleft, hvalue⟩ := hvalue
  obtain ⟨hrest, hitems⟩ := hitems
  have hlength := length_skipSpace_le s
  rw [hs, List.length_cons] at hlength
  refine ⟨by omega, ?_⟩
  unfold readItems
  split
  · rename_i hnil
    rw [hs] at hnil
    cases hnil
  · rename_i hcons
    obtain ⟨rfl, rfl⟩ := List.cons.inj (hs.symm.trans hcons)
    rw [if_neg (by decide)]
    simp only [Bool.false_eq_true, if_false, if_true, htail, hc, hvalue, hitems]

end Items

theorem yields_readItems_more {items : List Json} (hitems : ∀ item ∈ items, ReadsAt depth item)
    (done : List Json) (rest : List Char) :
    Yields (readItems depth false done (renderMore items ++ ']' :: rest)) (done.reverse ++ items)
      rest := by
  induction items generalizing done with
  | nil =>
      rw [List.append_nil]
      exact yields_readItems_close rfl
  | cons item items ih =>
      have hitem := hitems item List.mem_cons_self
      obtain ⟨c, cs, htext, hspace, hbracket⟩ := hitem.starts
      have hrest := ih (fun other hother => hitems other (List.mem_cons_of_mem _ hother))
        (item :: done)
      rw [List.reverse_cons, List.append_assoc, List.singleton_append] at hrest
      have hsplit : renderMore (item :: items) ++ ']' :: rest =
          ',' :: (item.render ++ (renderMore items ++ ']' :: rest)) := by
        simp [renderMore]
      rw [hsplit]
      refine yields_readItems_next rfl ?_ hbracket (hitem.reads _ (endsNumber_renderMore _ _)) hrest
      rw [htext, List.cons_append]
      exact ⟨_, skipSpace_cons hspace _⟩

theorem readsAt_array {items : List Json} (hitems : ∀ item ∈ items, ReadsAt depth item) :
    ReadsAt (depth + 1) (.array items) := by
  refine ⟨⟨'[', _, by rw [render, List.cons_append], by decide, by decide⟩, fun rest _ => ?_⟩
  have hinside : Yields (readItems depth true [] (renderItems items ++ ']' :: rest)) items
      rest := by
    cases items with
    | nil => exact yields_readItems_close rfl
    | cons item items =>
        have hitem := hitems item List.mem_cons_self
        obtain ⟨c, cs, htext, hspace, hbracket⟩ := hitem.starts
        have hmore := yields_readItems_more
          (fun other hother => hitems other (List.mem_cons_of_mem _ hother)) [item] rest
        have hvalue := hitem.reads _ (endsNumber_renderMore items rest)
        rw [renderItems_cons, List.append_assoc]
        rw [htext, List.cons_append] at hvalue ⊢
        exact yields_readItems_first (skipSpace_cons hspace _) hbracket hvalue hmore
  obtain ⟨hlength, hinside⟩ := hinside
  have htext : (Json.array items).render ++ rest = '[' :: (renderItems items ++ ']' :: rest) := by
    simp [render]
  rw [htext]
  refine ⟨by rw [List.length_cons]; omega, ?_⟩
  unfold readValue
  rw [if_neg (by decide), if_neg (by decide), if_neg (by decide), if_neg (by decide),
    if_neg (by decide), if_neg (by decide), if_neg (by decide), if_pos rfl]
  simp only [hinside]

/-! ## Objects -/

/-- A member of an object. -/
def renderMember (member : String × Json) : List Char :=
  stringText member.1 ++ ':' :: member.2.render

/-- The members behind the first one, each behind its comma. -/
def renderMoreMembers (members : Entries Json) : List Char :=
  members.flatMap fun member => ',' :: renderMember member

theorem renderMembers_cons (member : String × Json) (members : Entries Json) :
    renderMembers (member :: members) = renderMember member ++ renderMoreMembers members := by
  induction members generalizing member with
  | nil => simp [renderMembers, renderMember, renderMoreMembers]
  | cons next members ih =>
      rw [renderMembers, ih, renderMoreMembers, renderMoreMembers, List.flatMap_cons]
      simp [renderMember]

theorem endsNumber_renderMoreMembers (members : Entries Json) (rest : List Char) :
    EndsNumber (renderMoreMembers members ++ '}' :: rest) := by
  intro c hc
  cases members with
  | nil =>
      obtain rfl := Option.some.inj hc
      decide
  | cons member members =>
      obtain rfl := Option.some.inj hc
      decide

section Members

variable {s start afterKey afterColon left : List Char} {done members : Entries Json}
  {key : String} {v : Json}

theorem yields_readMembers_close {first : Bool} (hs : skipSpace s = '}' :: rest) :
    Yields (readMembers depth first done s) done rest := by
  have hlength := length_skipSpace_le s
  rw [hs, List.length_cons] at hlength
  refine ⟨by omega, ?_⟩
  unfold readMembers
  split
  · rename_i hnil
    rw [hs] at hnil
    cases hnil
  · rename_i hcons
    obtain ⟨rfl, rfl⟩ := List.cons.inj (hs.symm.trans hcons)
    rfl

/-- The name of a member begins here, behind a comma unless it is the first. -/
def Opens (first : Bool) (s start : List Char) : Prop :=
  if first then skipSpace s = '"' :: start
  else ∃ tail, skipSpace s = ',' :: tail ∧ skipSpace tail = '"' :: start

theorem Opens.length_lt {first : Bool} (h : Opens first s start) : start.length < s.length := by
  have hlength := length_skipSpace_le s
  cases first with
  | true =>
      rw [show skipSpace s = '"' :: start from h, List.length_cons] at hlength
      omega
  | false =>
      obtain ⟨tail, hs, htail⟩ := h
      have hbehind := length_skipSpace_le tail
      rw [hs, List.length_cons] at hlength
      rw [htail, List.length_cons] at hbehind
      omega

/-- Behind its name and a colon a member is read, and then the others. -/
theorem yields_readMembers_member {first : Bool} (hopens : Opens first s start)
    (hkey : readString [] start = .ok (key, afterKey))
    (hcolon : skipSpace afterKey = ':' :: afterColon)
    (hvalue : Yields (readValue depth afterColon) v left)
    (hmembers : Yields (readMembers depth false (Entries.set done key v) left) members rest) :
    Yields (readMembers depth first done s) members rest := by
  obtain ⟨hleft, hvalue⟩ := hvalue
  obtain ⟨hrest, hmembers⟩ := hmembers
  have hstart := hopens.length_lt
  have hstring := length_readString hkey
  have hspace := length_skipSpace_le afterKey
  rw [hcolon, List.length_cons] at hspace
  refine ⟨by omega, ?_⟩
  unfold readMembers
  split
  · rename_i hnil
    cases first with
    | true => cases hnil.symm.trans hopens
    | false =>
        obtain ⟨tail, hs, -⟩ := hopens
        cases hnil.symm.trans hs
  rename_i hcons
  -- what stands before the name differs, and from the name on both go the same way
  cases first
  case' true =>
    obtain ⟨rfl, rfl⟩ := List.cons.inj (hcons.symm.trans hopens)
    rw [if_neg (by decide)]
    simp only [if_true]
  case' false =>
    obtain ⟨tail, hs, htail⟩ := hopens
    obtain ⟨rfl, rfl⟩ := List.cons.inj (hcons.symm.trans hs)
    rw [if_neg (by decide)]
    simp only [Bool.false_eq_true, if_false, if_true]
    split
    · rename_i hopened
      split at hopened
      · rename_i hnil
        cases hnil.symm.trans htail
      · rename_i hquote
        obtain ⟨rfl, rfl⟩ := List.cons.inj (hquote.symm.trans htail)
        cases hopened
    rename_i hopened
    split at hopened
    · cases hopened
    rename_i hquote
    obtain ⟨rfl, rfl⟩ := List.cons.inj (hquote.symm.trans htail)
    obtain rfl := Subtype.mk.inj (Except.ok.inj hopened)
  all_goals
    split
    · rename_i hcause
      cases hcause.symm.trans hkey
    rename_i hread
    obtain ⟨rfl, rfl⟩ := Prod.mk.inj (Except.ok.inj (hread.symm.trans hkey))
    split
    · rename_i hnil
      cases hnil.symm.trans hcolon
    rename_i hcons
    obtain ⟨rfl, rfl⟩ := List.cons.inj (hcons.symm.trans hcolon)
    simp only [if_true, hvalue, hmembers]

end Members

/-- A member behind its place, in front of the members that follow. -/
theorem yields_readMembers_renderMember {first : Bool} {s : List Char} {done members : Entries Json}
    {member : String × Json} (hmember : ReadsAt depth member.2) {more : Entries Json}
    (hopens : Opens first s (member.1.toList.flatMap escapeChar ++ '"' ::
      (':' :: (member.2.render ++ (renderMoreMembers more ++ '}' :: rest)))))
    (hmembers : Yields (readMembers depth false (Entries.set done member.1 member.2)
      (renderMoreMembers more ++ '}' :: rest)) members rest) :
    Yields (readMembers depth first done s) members rest :=
  yields_readMembers_member hopens (readString_stringText _ _)
    (skipSpace_cons (by decide) _) (hmember.reads _ (endsNumber_renderMoreMembers _ _)) hmembers

theorem renderMember_append (member : String × Json) (cs : List Char) :
    renderMember member ++ cs = '"' :: (member.1.toList.flatMap escapeChar ++ '"' ::
      (':' :: (member.2.render ++ cs))) := by
  simp [renderMember, stringText]

theorem yields_readMembers_more {members : Entries Json}
    (hmembers : ∀ member ∈ members, ReadsAt depth member.2) (done : Entries Json)
    (hnames : Entries.Distinct (done ++ members)) (rest : List Char) :
    Yields (readMembers depth false done (renderMoreMembers members ++ '}' :: rest))
      (done ++ members) rest := by
  induction members generalizing done with
  | nil =>
      rw [List.append_nil]
      exact yields_readMembers_close rfl
  | cons member members ih =>
      have hnew : member.1 ∉ Entries.keys done := by
        unfold Entries.Distinct Entries.keys at hnames
        rw [List.map_append, List.map_cons, List.nodup_append] at hnames
        intro hmem
        exact hnames.2.2 _ hmem _ List.mem_cons_self rfl
      have hrest := ih (fun other hother => hmembers other (List.mem_cons_of_mem _ hother))
        (done ++ [member]) (by rwa [List.append_assoc, List.singleton_append])
      rw [List.append_assoc, List.singleton_append] at hrest
      have hsplit : renderMoreMembers (member :: members) ++ '}' :: rest =
          ',' :: (renderMember member ++ (renderMoreMembers members ++ '}' :: rest)) := by
        simp [renderMoreMembers]
      rw [hsplit, renderMember_append]
      refine yields_readMembers_renderMember (hmembers member List.mem_cons_self)
        ⟨_, skipSpace_cons (by decide) _, skipSpace_cons (by decide) _⟩ ?_
      rwa [Entries.set_of_notMem hnew]

theorem readsAt_object {members : Entries Json} (hnames : members.Distinct)
    (hmembers : ∀ member ∈ members, ReadsAt depth member.2) :
    ReadsAt (depth + 1) (.object members) := by
  refine ⟨⟨'{', _, by rw [render, List.cons_append], by decide, by decide⟩, fun rest _ => ?_⟩
  have hinside : Yields (readMembers depth true [] (renderMembers members ++ '}' :: rest)) members
      rest := by
    cases members with
    | nil => exact yields_readMembers_close rfl
    | cons member members =>
        have hmore := yields_readMembers_more
          (fun other hother => hmembers other (List.mem_cons_of_mem _ hother)) [member] hnames rest
        rw [renderMembers_cons, List.append_assoc, renderMember_append]
        exact yields_readMembers_renderMember (hmembers member List.mem_cons_self)
          (skipSpace_cons (by decide) _) hmore
  obtain ⟨hlength, hinside⟩ := hinside
  have htext : (Json.object members).render ++ rest =
      '{' :: (renderMembers members ++ '}' :: rest) := by
    simp [render]
  rw [htext]
  refine ⟨by rw [List.length_cons]; omega, ?_⟩
  unfold readValue
  rw [if_neg (by decide), if_neg (by decide), if_neg (by decide), if_neg (by decide),
    if_neg (by decide), if_neg (by decide), if_neg (by decide), if_neg (by decide), if_pos rfl]
  simp only [hinside]

/-! ## Values -/

theorem Faithful.readsAt {v : Json} (h : v.Faithful depth) : ReadsAt depth v := by
  induction h with
  | null => exact readsAt_null
  | bool _ b => exact readsAt_bool b
  | number _ hn => exact readsAt_number hn
  | string _ s => exact readsAt_string s
  | array _ ih => exact readsAt_array ih
  | object hnames _ ih => exact readsAt_object hnames ih

theorem read_of_yields {text : List Char} {v : Json}
    (h : Yields (readValue depthLimit text) v []) : read (String.ofList text) = .ok v := by
  rw [← @String.toList_ofList text] at h
  obtain ⟨hlength, hread⟩ := h
  rw [read, hread]
  rfl

/-- **JSON text is read back**: a value that loses nothing in its text is read from it. -/
theorem Faithful.read_text {v : Json} (h : v.Faithful depthLimit) : read v.text = .ok v := by
  have hread := h.readsAt.reads [] (by simp [EndsNumber])
  rw [List.append_nil] at hread
  exact read_of_yields hread

/-- A number that drifts is a value that is not read back. -/
theorem read_drifting :
    read (number (.double .drifting)).text = .ok (number (.double .drifted)) := by
  have hends : EndsNumber [] := by simp [EndsNumber]
  have hread := @yields_readValue_number depthLimit [] _ _ _ readNumber_drifting hends
  rw [if_neg Bool.false_ne_true, List.nil_append, List.append_nil] at hread
  rw [text, render]
  exact read_of_yields hread

end Switchboard.Json
