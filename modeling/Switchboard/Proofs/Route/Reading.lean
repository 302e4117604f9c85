import Mathlib.Data.List.Forall2
import Mathlib.Data.List.Induction
import Mathlib.Data.List.Nodup
import Switchboard.Proofs.Json.Names
import Switchboard.Proofs.Json.ReadBack
import Switchboard.Proofs.Route.RoundTrip
import Switchboard.Proofs.Sequence
import Switchboard.Proofs.Text.LowerCase
import Switchboard.Route.Definition

/-!
# Reading routes

A key of a route names a verb by one of the verb's words, in any letter case
(`Verb.ofKey?_eq_some_iff`).  Where one key does, each member is read by itself and its operation
set under its verb (`decodeVerbs_eq`).  So the first member that declares nothing decides the error,
and the operations that are left are the last ones of their verbs (`collects_gather`).

A path comes once in a document that is read from a value without repeated names, and a verb once at
each path (`Document.distinct_of_decode`).
-/

namespace Switchboard

/-! ## Names of verbs -/

namespace Verb

/-- The words that name the verb in a document. -/
def words : Verb → List String
  | update => ["update", "patch"]
  | verb => [verb.name]

/-- The key is a word for the verb, in any letter case. -/
def IsNamed (verb : Verb) (key : String) : Prop :=
  ∃ word ∈ verb.words, Text.eqIgnoringAsciiCase key word = true

theorem isPlainSmall_words (verb : Verb) :
    verb.words.all (fun word => word.toList.all Text.isPlainSmall) = true := by
  cases verb <;> decide

theorem ofKey?_eq_some_iff_mem_words {key : String} {verb : Verb} :
    ofKey? key = some verb ↔ Text.lowerCase key ∈ verb.words := by
  unfold ofKey?
  generalize Text.lowerCase key = word
  constructor
  · intro h
    split at h <;> cases h <;> decide
  · intro h
    cases verb with
    | update =>
        rcases List.mem_cons.1 h with rfl | h
        · rfl
        · obtain rfl := List.mem_singleton.1 h
          rfl
    | get | post | put | delete | head =>
        obtain rfl := List.mem_singleton.1 h
        rfl

theorem ofKey?_eq_some_iff {key : String} {verb : Verb} :
    ofKey? key = some verb ↔ verb.IsNamed key := by
  have hword : ∀ word ∈ verb.words,
      (Text.lowerCase key = word ↔ Text.eqIgnoringAsciiCase key word = true) :=
    fun word hword => Text.lowerCase_eq_iff
      (List.all_eq_true.1 (List.all_eq_true.1 (isPlainSmall_words verb) word hword))
  rw [ofKey?_eq_some_iff_mem_words]
  constructor
  · intro hmem
    exact ⟨Text.lowerCase key, hmem, (hword _ hmem).1 rfl⟩
  · rintro ⟨word, hmem, hsame⟩
    rw [(hword word hmem).2 hsame]
    exact hmem

theorem ofKey?_eq_none_iff {key : String} :
    ofKey? key = none ↔ ∀ verb : Verb, ¬ verb.IsNamed key := by
  rw [Option.eq_none_iff_forall_ne_some]
  exact forall_congr' fun verb => not_congr ofKey?_eq_some_iff

end Verb

/-! ## Members of routes -/

namespace Route

/-- The key of the member names the verb, and its value is the operation. -/
def Declares (member : String × Json) (entry : Verb × Operation) : Prop :=
  entry.1.IsNamed member.1 ∧ Operation.decode member.2 = .ok entry.2

/-- The member declares nothing, for this cause. -/
inductive Refused : String × Json → DecodeError → Prop
  | foreign {key : String} {value : Json} (hkey : ∀ verb : Verb, ¬ verb.IsNamed key) :
      Refused (key, value) (.foreignKey key)
  | broken {key : String} {value : Json} {verb : Verb} {cause : DecodeError}
      (hkey : verb.IsNamed key) (hvalue : Operation.decode value = .error cause) :
      Refused (key, value) (.inMethod key cause)

/-- What one member of a route declares. -/
def readMember (member : String × Json) : Decoded (Verb × Operation) :=
  match Verb.ofKey? member.1 with
  | none => .error (.foreignKey member.1)
  | some verb =>
    match Operation.decode member.2 with
    | .error cause => .error (.inMethod member.1 cause)
    | .ok operation => .ok (verb, operation)

variable {member : String × Json} {entry : Verb × Operation} {cause : DecodeError}

theorem readMember_eq_ok_iff : readMember member = .ok entry ↔ Declares member entry := by
  obtain ⟨key, value⟩ := member
  obtain ⟨verb, operation⟩ := entry
  unfold readMember Declares
  rw [← Verb.ofKey?_eq_some_iff]
  constructor
  · intro h
    split at h
    · cases h
    · rename_i hverb
      split at h
      · cases h
      · rename_i hoperation
        cases h
        exact ⟨hverb, hoperation⟩
  · rintro ⟨hverb, hoperation⟩
    dsimp only at hverb hoperation ⊢
    rw [hverb]
    dsimp only
    rw [hoperation]

theorem readMember_eq_error_iff : readMember member = .error cause ↔ Refused member cause := by
  obtain ⟨key, value⟩ := member
  unfold readMember
  constructor
  · intro h
    split at h
    · rename_i hnone
      cases h
      exact .foreign (Verb.ofKey?_eq_none_iff.1 hnone)
    · rename_i hverb
      split at h
      · rename_i hvalue
        cases h
        exact .broken (Verb.ofKey?_eq_some_iff.1 hverb) hvalue
      · cases h
  · intro h
    cases h with
    | foreign hkey =>
        rw [Verb.ofKey?_eq_none_iff.2 hkey]
    | broken hkey hvalue =>
        rw [Verb.ofKey?_eq_some_iff.2 hkey]
        dsimp only
        rw [hvalue]

/-- The operations of the verbs, each set over those before. -/
def gather (done entries : List (Verb × Operation)) : List (Verb × Operation) :=
  entries.foldl (fun operations entry => set operations entry.1 entry.2) done

theorem decodeVerbs_eq (done : List (Verb × Operation)) (members : List (String × Json)) :
    decodeVerbs done members = (members.mapM readMember).map (gather done) := by
  induction members generalizing done with
  | nil => rfl
  | cons member rest ih =>
      obtain ⟨key, value⟩ := member
      rw [decodeVerbs, List.mapM_cons, readMember]
      dsimp only
      cases Verb.ofKey? key with
      | none => rfl
      | some verb =>
          dsimp only
          cases Operation.decode value with
          | error cause => rfl
          | ok operation =>
              dsimp only
              rw [ih]
              cases rest.mapM readMember with
              | error cause => rfl
              | ok entries => rfl

theorem map_fst_gather (done entries : List (Verb × Operation)) :
    (gather done entries).map Prod.fst =
      done.map Prod.fst ++ ((entries.map Prod.fst).filter (· ∉ done.map Prod.fst)).eraseDups := by
  rw [← foldl_addNew, List.foldl_map]
  exact (List.foldl_hom (List.map Prod.fst)
    fun acc entry => (map_fst_set acc entry.1 entry.2).symm).symm

theorem nodup_gather {done : List (Verb × Operation)} (h : (done.map Prod.fst).Nodup)
    (entries : List (Verb × Operation)) : ((gather done entries).map Prod.fst).Nodup := by
  induction entries generalizing done with
  | nil => exact h
  | cons entry rest ih => exact ih (nodup_set h entry.1 entry.2)

theorem mem_set_iff {done : List (Verb × Operation)} (h : (done.map Prod.fst).Nodup)
    {verb v : Verb} {operation o : Operation} :
    (v, o) ∈ set done verb operation ↔ if verb = v then o = operation else (v, o) ∈ done := by
  induction done with
  | nil =>
      by_cases hv : verb = v
      · simp [set, hv]
      · simp [set, hv, Ne.symm hv]
  | cons entry rest ih =>
      obtain ⟨w, p⟩ := entry
      rw [List.map_cons, List.nodup_cons] at h
      by_cases hw : w = verb
      · -- no entry behind the replaced one is of its verb
        subst hw
        have hrest : (w, o) ∉ rest := fun hmem => h.1 (List.mem_map.2 ⟨(w, o), hmem, rfl⟩)
        rw [set, if_pos rfl, List.mem_cons, Prod.mk.injEq, List.mem_cons, Prod.mk.injEq]
        by_cases hv : w = v
        · subst hv
          simp [hrest]
        · simp [hv, Ne.symm hv]
      · rw [set, if_neg hw, List.mem_cons, ih h.2, List.mem_cons]
        by_cases hv : verb = v
        · subst hv
          simp [Ne.symm hw]
        · simp [hv]

/-- The operations are the last ones of their verbs, and the verbs stand in the order of their
first ones. -/
structure Collects (entries operations : List (Verb × Operation)) : Prop where
  order : operations.map Prod.fst = (entries.map Prod.fst).eraseDups
  last : ∀ verb operation, (verb, operation) ∈ operations ↔
    ∃ before after, entries = before ++ (verb, operation) :: after ∧ verb ∉ after.map Prod.fst

theorem mem_gather_iff {entries : List (Verb × Operation)} {entry : Verb × Operation} :
    entry ∈ gather [] entries ↔
      entries.reverse.find? (fun other => other.1 == entry.1) = some entry := by
  obtain ⟨v, o⟩ := entry
  induction entries using List.reverseRecOn with
  | nil => simp [gather]
  | append_singleton entries last ih =>
      have hlast : gather [] (entries ++ [last]) = set (gather [] entries) last.1 last.2 := by
        rw [gather, List.foldl_concat]
        rfl
      have hnodup : ((gather [] entries).map Prod.fst).Nodup := nodup_gather (by simp) entries
      rw [hlast, mem_set_iff hnodup, List.reverse_concat,
        List.find?_cons, ih]
      by_cases hv : last.1 = v
      · subst hv
        simp [Prod.ext_iff, eq_comm]
      · have hne : (last.1 == v) = false := by simpa using hv
        rw [if_neg hv, hne]

theorem collects_gather (entries : List (Verb × Operation)) :
    Collects entries (gather [] entries) where
  order := by
    rw [map_fst_gather]
    simp
  last _ _ := mem_gather_iff.trans find?_reverse_key_eq_some_iff

theorem any_isNamed_iff {members : List (String × Json)} :
    (members.any fun member => (Verb.ofKey? member.1).isSome) = true ↔
      ∃ member ∈ members, ∃ verb : Verb, verb.IsNamed member.1 := by
  simp only [List.any_eq_true, Option.isSome_iff_exists, Verb.ofKey?_eq_some_iff]

theorem decode_of_named {members : List (String × Json)}
    (h : ∃ member ∈ members, ∃ verb : Verb, verb.IsNamed member.1) :
    decode (.object members) =
      (members.mapM readMember).map fun entries => ⟨gather [] entries⟩ := by
  rw [decode]
  split
  · rw [decodeVerbs_eq]
    cases members.mapM readMember with
    | error cause => rfl
    | ok entries => rfl
  · rename_i hnone
    exact absurd (any_isNamed_iff.2 h) hnone

theorem decode_of_not_named {members : List (String × Json)}
    (h : ∀ member ∈ members, ∀ verb : Verb, ¬ verb.IsNamed member.1) :
    decode (.object members) =
      (Operation.decode (.object members)).map fun operation => ⟨[(.get, operation)]⟩ := by
  rw [decode]
  split
  · rename_i hany
    obtain ⟨member, hmember, verb, hverb⟩ := any_isNamed_iff.1 hany
    exact absurd hverb (h member hmember verb)
  · rfl

theorem forall₂_of_mapM_readMember {members : List (String × Json)}
    {entries : List (Verb × Operation)} (h : members.mapM readMember = .ok entries) :
    List.Forall₂ Declares members entries := by
  rw [mapM_eq_ok_iff, ← List.forall₂_eq_eq_eq, List.forall₂_map_left_iff,
    List.forall₂_map_right_iff] at h
  exact h.imp fun _ _ => readMember_eq_ok_iff.1

end Route

/-! ## Documents -/

namespace Document

/-- No path is declared twice, and no verb twice at one path. -/
structure Distinct (d : Document) : Prop where
  routes : d.routes.Distinct
  verbs : ∀ entry ∈ d.routes, (entry.2.operations.map Prod.fst).Nodup

theorem Distinct.nodup_operations {d : Document} (h : d.Distinct) :
    (d.operations.map fun placed => (placed.path, placed.verb)).Nodup := by
  have hplaces : (d.operations.map fun placed => (placed.path, placed.verb)) =
      d.routes.flatMap fun entry => (entry.2.operations.map Prod.fst).map (entry.1, ·) := by
    simp [operations, List.map_flatMap, Function.comp_def]
  rw [hplaces, List.nodup_flatMap]
  constructor
  · intro entry hentry
    exact (h.verbs entry hentry).map fun _ _ heq => (Prod.mk.inj heq).2
  · have hpaths : d.routes.Pairwise fun entry other => entry.1 ≠ other.1 :=
      List.pairwise_map.1 h.routes
    refine hpaths.imp fun hne => ?_
    intro place hplace hother
    obtain ⟨_, -, rfl⟩ := List.mem_map.1 hplace
    obtain ⟨_, -, heq⟩ := List.mem_map.1 hother
    exact hne (Prod.mk.inj heq).1.symm

/-- An operation is told by its path and its verb. -/
theorem Distinct.eq_of_mem {d : Document} (h : d.Distinct) {p q : Placed}
    (hp : p ∈ d.operations) (hq : q ∈ d.operations) (hpath : p.path = q.path)
    (hverb : p.verb = q.verb) : p = q :=
  List.inj_on_of_nodup_map h.nodup_operations hp hq (Prod.ext hpath hverb)

theorem Draft.distinct_put {draft next : Draft} {member : String × Json}
    (hdraft : draft.routes.Distinct) (hmember : member.2.NamesOnce)
    (h : draft.put member = .ok next) : next.routes.Distinct := by
  unfold Draft.put at h
  split at h
  · obtain ⟨version, -, h⟩ := exists_of_bind_eq_ok h
    obtain rfl := Except.ok.inj h
    exact hdraft
  · obtain ⟨routes, hroutes, h⟩ := exists_of_bind_eq_ok h
    obtain rfl := Except.ok.inj h
    exact hmember.distinct_decodeMap hroutes
  · obtain rfl := Except.ok.inj h
    exact hdraft

theorem distinct_of_decode {value : Json} {d : Document} (hvalue : value.NamesOnce)
    (h : decode value = .ok d) : d.Distinct := by
  refine ⟨?_, fun entry hentry => ((declared_of_decode h).2 entry hentry).distinct⟩
  obtain ⟨members, hmembers, h⟩ := exists_of_bind_eq_ok h
  obtain ⟨draft, hdraft, h⟩ := exists_of_bind_eq_ok h
  have hempty : ({} : Draft).routes.Distinct := List.nodup_nil
  have hdistinct : draft.routes.Distinct :=
    foldlM_invariant (fun draft : Draft => draft.routes.Distinct)
      (fun _ _ hmember _ hacc => Draft.distinct_put hacc
        (hvalue.of_mem_recordMembers hmembers hmember)) hempty hdraft
  split at h
  · simp at h
  · obtain ⟨-, -, h⟩ := exists_of_bind_eq_ok h
    obtain rfl := Except.ok.inj h
    exact hdistinct

end Document

/-- No definition that is loaded from a text declares a path twice, or a verb twice at one path. -/
theorem Definition.distinct_of_ofText {text : String} {d : Definition} (h : ofText text = .ok d) :
    d.document.Distinct := by
  unfold ofText at h
  split at h
  · rename_i raw hraw
    unfold ofJson at h
    split at h
    · rename_i document hdocument
      cases h
      exact Document.distinct_of_decode (Json.namesOnce_of_read hraw) hdocument
    · cases h
  · cases h

/-! ## Routes as declared -/

namespace Route

/--
**Routes are decoded as declared**: a key that names a verb, in any letter case, makes every member
the declaration of an operation.  The first one that is none is the cause of the error, and
otherwise each verb has its last operation in the place of its first one.  Without such a key the
object itself is the operation of `get`.  So every path of a document has an operation, and none has
two for one verb.
-/
theorem decode_exact :
    (∀ members : List (String × Json),
      (∃ member ∈ members, ∃ verb : Verb, verb.IsNamed member.1) →
        ((∃ r, decode (.object members) = .ok r) ↔
          ∀ member ∈ members, ∃ entry, Declares member entry) ∧
        (∀ cause, decode (.object members) = .error cause ↔
          ∃ before member after, members = before ++ member :: after ∧
            (∀ earlier ∈ before, ∃ entry, Declares earlier entry) ∧ Refused member cause) ∧
        ∀ r, decode (.object members) = .ok r →
          ∃ entries, List.Forall₂ Declares members entries ∧ Collects entries r.operations) ∧
    (∀ members : List (String × Json),
      (∀ member ∈ members, ∀ verb : Verb, ¬ verb.IsNamed member.1) →
        decode (.object members) =
          (Operation.decode (.object members)).map fun operation => ⟨[(.get, operation)]⟩) ∧
    (∀ text value, Json.read text = .ok value → value.NamesOnce) ∧
    ∀ value d, value.NamesOnce → Document.decode value = .ok d →
      (∀ entry ∈ d.routes, entry.2.operations ≠ []) ∧
      (d.operations.map fun placed => (placed.path, placed.verb)).Nodup := by
  refine ⟨fun members hnamed => ?_, fun members => decode_of_not_named,
    fun text value => Json.namesOnce_of_read, fun value d hvalue hd => ?_⟩
  · rw [decode_of_named hnamed, exists_map_eq_ok_iff, exists_mapM_eq_ok_iff]
    refine ⟨?_, fun cause => ?_, fun r hr => ?_⟩
    · simp only [readMember_eq_ok_iff]
    · rw [map_eq_error_iff, mapM_eq_error_iff]
      simp only [readMember_eq_ok_iff, readMember_eq_error_iff]
    · obtain ⟨entries, hentries, rfl⟩ := exists_of_map_eq_ok hr
      exact ⟨entries, forall₂_of_mapM_readMember hentries, collects_gather entries⟩
  · have hdeclared := (Document.declared_of_decode hd).2
    exact ⟨fun entry hentry => (hdeclared entry hentry).nonempty,
      (Document.distinct_of_decode hvalue hd).nodup_operations⟩

/-- The value of an operation of which only the handler is declared. -/
def handledBy (action : String) : Json :=
  .object [("handler", .object [("action", .string action)])]

/-- One verb in two spellings, and one under both of its words. -/
def mixedSpellings : List (String × Json) :=
  [("Get", handledBy "first"), ("PATCH", handledBy "rename"), ("update", handledBy "change"),
    ("GET", handledBy "last")]

/-- A document with a route in which the keys name verbs and one in which none does. -/
def mixedDocument : Json :=
  .object [("version", .ofInt 1),
    ("routes", .object [("users", .object mixedSpellings), ("status", handledBy "show")])]

theorem faithful_mixedDocument : mixedDocument.Faithful Json.depthLimit := by
  simp [mixedDocument, mixedSpellings, handledBy, Json.depthLimit, Json.ofInt,
    Number.readsBack_integer_iff, Entries.Distinct, Entries.keys]

theorem decode_mixedSpellings :
    (∃ r, decode (.object mixedSpellings) = .ok r ∧
      (r.operations.map fun entry => (entry.1, entry.2.target.action)) =
        [(.get, "last"), (.update, "change")] ∧
      ∃ entries, List.Forall₂ Declares mixedSpellings entries ∧ Collects entries r.operations) ∧
    decode (.object (mixedSpellings ++ [("handler", .null), ("head", .null)])) =
      .error (.foreignKey "handler") ∧
    decode (handledBy "show") =
      (Operation.decode (handledBy "show")).map (fun operation => ⟨[(.get, operation)]⟩) ∧
    (Json.read mixedDocument.text = .ok mixedDocument ∧ mixedDocument.NamesOnce) ∧
    ∃ d, Document.decode mixedDocument = .ok d ∧
      (∀ entry ∈ d.routes, entry.2.operations ≠ []) ∧
      (d.operations.map fun placed => (placed.path, placed.verb)).Nodup := by
  obtain ⟨hnamed, hplain, hread, hdocument⟩ := decode_exact
  have hget : Verb.IsNamed .get "Get" := ⟨"get", by decide, by decide⟩
  obtain ⟨r, hr, hoperations⟩ : ∃ r, decode (.object mixedSpellings) = .ok r ∧
      (r.operations.map fun entry => (entry.1, entry.2.target.action)) =
        [(.get, "last"), (.update, "change")] := ⟨_, rfl, by decide⟩
  obtain ⟨hdeclares, -, hcollects⟩ :=
    hnamed mixedSpellings ⟨_, List.mem_cons_self, .get, hget⟩
  have hforeign : ∀ verb : Verb, ¬ verb.IsNamed "handler" :=
    Verb.ofKey?_eq_none_iff.1 (by decide)
  have hnames := hread _ _ faithful_mixedDocument.read_text
  refine ⟨⟨r, hr, hoperations, hcollects r hr⟩, ?_, ?_, ?_, ?_⟩
  · obtain ⟨-, hrefused, -⟩ := hnamed (mixedSpellings ++ [("handler", .null), ("head", .null)])
      ⟨_, List.mem_cons_self, .get, hget⟩
    exact (hrefused _).2 ⟨mixedSpellings, ("handler", .null), [("head", .null)], rfl,
      hdeclares.1 ⟨r, hr⟩, .foreign hforeign⟩
  · refine hplain _ fun member hmember => ?_
    obtain rfl := List.mem_singleton.1 hmember
    exact hforeign
  · exact ⟨faithful_mixedDocument.read_text, hnames⟩
  · obtain ⟨d, hd⟩ : ∃ d, Document.decode mixedDocument = .ok d := ⟨_, rfl⟩
    exact ⟨d, hd, hdocument mixedDocument d hnames hd⟩

end Route

end Switchboard
