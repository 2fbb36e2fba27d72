import Mathlib.Algebra.Group.Int.Defs
import ProxyMeter.Proofs.Calendar.Lenient
import ProxyMeter.Proofs.Chains
import ProxyMeter.Proofs.Json.RoundTrip
import ProxyMeter.Traffic.RecordReader

/-!
# Records that are read back

A record is written as an object with its ten members in one order. It is read from more texts than
this one: from its members in any order and among others, with blanks, escapes and offsets as they
may be. Whatever is read is a record that can be written, and what is written is read back, so the
text of a record stands for all texts that are read as it (`Record.text_canonical`).
-/

namespace ProxyMeter.Traffic

open Calendar Json

/-- A whole number of sixty-four bits with a sign. -/
def IsWord (n : Int) : Prop := -2 ^ 63 ≤ n ∧ n < 2 ^ 63

instance (n : Int) : Decidable (IsWord n) := inferInstanceAs (Decidable (_ ∧ _))

/-- A record whose counts fit their words and whose instants are on the calendar. -/
structure Record.IsRepresentable (r : Record) : Prop where
  timestamp : Rfc3339.IsRepresentable r.event.timestamp
  latency : IsWord r.event.latencyMs
  bytesIn : IsWord r.event.bytesIn
  bytesOut : IsWord r.event.bytesOut
  createdAt : Rfc3339.IsRepresentable r.createdAt

variable {r : Record}

/-! ### Values -/

theorem count?_int {n : Int} (h : IsWord n) : count? (.int n) = some n := if_pos h

theorem port?_nat (p : UInt16) : port? (.nat p.toNat) = some p := by
  have bound := p.toNat_lt
  rw [Value.nat, Value.int, port?, if_pos (by omega), Int.toNat_natCast, UInt16.ofNat_toNat]

theorem instant?_text {a : Instant} (h : Rfc3339.IsRepresentable a) :
    instant? (.text a.render) = some a := by
  rw [instant?, Value.text, text?, Option.bind_some, Rfc3339.parseLenient?_render h]

/-- The values of a record in their order are read as the record. -/
theorem ofValues?_values (h : r.IsRepresentable) :
    Record.ofValues? (r.members.map Prod.snd) = some r := by
  show Record.ofValues? [_, _, _, _, _, _, _, _, _, _] = _
  simp only [Record.ofValues?]
  rw [port?_nat, instant?_text h.timestamp, instant?_text h.createdAt, count?_int h.latency,
    count?_int h.bytesIn, count?_int h.bytesOut]
  rfl

/-! ### Members in any order -/

/-- What is found under a key is the first of the members that have it. -/
theorem lookup_eq_head? (members : List (Literal × Value)) (key : Literal) :
    members.lookup key = (members.filter (·.1 = key)).head?.map Prod.snd := by
  induction members with
  | nil => rfl
  | cons member members ih =>
    obtain ⟨other, v⟩ := member
    by_cases same : other = key
    · simp [same]
    · have apart : (key == other) = false := by simpa using Ne.symm same
      rw [List.lookup_cons, apart, List.filter_cons_of_neg (by simpa using same)]
      exact ih

/-- Of members with different keys, one alone has its key. -/
theorem filter_eq_singleton {known : List (String × Value)} (apart : (known.map Prod.fst).Nodup)
    {key : String} {v : Value} (member : (key, v) ∈ known) :
    known.filter (·.1 = key) = [(key, v)] := by
  induction known with
  | nil => cases member
  | cons first known ih =>
    rw [List.map_cons, List.nodup_cons] at apart
    obtain rfl | member := List.mem_cons.mp member
    · rw [List.filter_cons_of_pos (by simp), List.filter_eq_nil_iff.mpr]
      intro other inside same
      have again : other.1 ∈ known.map Prod.fst := List.mem_map_of_mem inside
      simp only [decide_eq_true_eq] at same
      exact apart.1 (same ▸ again)
    · have other : first.1 ≠ key := fun same => apart.1 (same ▸ List.mem_map_of_mem member)
      rw [List.filter_cons_of_neg (by simpa using other), ih apart.2 member]

section

variable {known : List (String × Value)} {members : List (Literal × Value)}

/-- Whether the members of an object are ten known ones, in any order and among others. -/
structure Holds (members : List (Literal × Value)) (known : List (String × Value)) : Prop where
  keys : known.map Prod.fst = Record.keys
  among : ∃ others, members.Perm (known.map (fun m => (some m.1, m.2)) ++ others) ∧
    ∀ m ∈ others, ∃ key, m.1 = some key ∧ key ∉ Record.keys

/-- Each of the known keys has one member. -/
theorem Holds.filter_eq (h : Holds members known) {key : String} {v : Value}
    (member : (key, v) ∈ known) : members.filter (·.1 = some key) = [(some key, v)] := by
  obtain ⟨keys, others, perm, unknown⟩ := h
  have apart : (known.map Prod.fst).Nodup := by
    rw [keys]
    decide
  have inKeys : key ∈ Record.keys := keys ▸ List.mem_map_of_mem member
  have none : others.filter (·.1 = some key) = [] := by
    rw [List.filter_eq_nil_iff]
    intro m inside same
    obtain ⟨other, text, absent⟩ := unknown m inside
    simp only [text, Option.some.injEq, decide_eq_true_eq] at same
    exact absent (same ▸ inKeys)
  apply List.perm_singleton.mp
  have filtered := perm.filter (·.1 = some key)
  rw [List.filter_append, none, List.append_nil, List.filter_map] at filtered
  have one := filter_eq_singleton apart member
  simpa [Function.comp_def, one] using filtered

/-- Such an object is the record of the values under the known keys. -/
theorem Holds.ofJson?_eq (h : Holds members known) :
    Record.ofJson? (.object members) = Record.ofValues? (known.map Prod.snd) := by
  have texts : members.any (·.1.isNone) = false := by
    obtain ⟨-, others, perm, unknown⟩ := h
    rw [List.any_eq_false]
    intro m inside
    obtain known | other := List.mem_append.mp (perm.subset inside)
    · obtain ⟨member, -, rfl⟩ := List.mem_map.mp known
      simp
    · obtain ⟨key, text, -⟩ := unknown m other
      simp [text]
  have once : (Record.keys.all fun key => (members.filter (·.1 = some key)).length = 1) = true := by
    rw [← h.keys, List.all_map, List.all_eq_true]
    intro member inside
    simp [h.filter_eq inside]
  have values : (Record.keys.mapM fun key => members.lookup (some key)) =
      some (known.map Prod.snd) := by
    rw [← h.keys, List.mapM_map]
    apply mapM_eq_some
    intro member inside
    rw [Function.comp_apply, lookup_eq_head?, h.filter_eq inside]
    rfl
  simp only [Record.ofJson?]
  rw [texts]
  simp only [once, values]
  rfl

end

/-- A record is read back from its own object. -/
theorem ofJson?_toJson (h : r.IsRepresentable) : Record.ofJson? r.toJson = some r := by
  have holds : Holds (r.members.map fun m => (some m.1, m.2)) r.members :=
    ⟨rfl, [], by simp, nofun⟩
  exact holds.ofJson?_eq.trans (ofValues?_values h)

theorem isPlain_toJson (r : Record) : r.toJson.isPlain = true := rfl

/-! ### What is read -/

theorem isWord_of_count? {v : Value} {n : Int} (h : count? v = some n) : IsWord n := by
  unfold count? at h
  split at h
  · split at h
    · next within =>
      cases h
      exact within
    · cases h
  · cases h

theorem isRepresentable_of_instant? {v : Value} {a : Instant} (h : instant? v = some a) :
    Rfc3339.IsRepresentable a := by
  obtain ⟨s, -, read⟩ := Option.bind_eq_some_iff.mp h
  exact Rfc3339.isRepresentable_of_parseLenient? read

/-- Ten values that are a record are one that can be written. -/
theorem isRepresentable_of_ofValues? {vs : List Value} (h : Record.ofValues? vs = some r) :
    r.IsRepresentable := by
  unfold Record.ofValues? at h
  split at h
  · simp only [Option.bind_eq_bind, Option.bind_eq_some_iff, Option.pure_def] at h
    obtain ⟨source, -, destination, -, domain, -, port, -, time, hTime, latency, hLatency, into,
      hInto, out, hOut, transport, -, created, hCreated, h⟩ := h
    cases h
    exact ⟨isRepresentable_of_instant? hTime, isWord_of_count? hLatency, isWord_of_count? hInto,
      isWord_of_count? hOut, isRepresentable_of_instant? hCreated⟩
  · cases h

theorem isRepresentable_of_ofJson? {v : Value} (h : Record.ofJson? v = some r) :
    r.IsRepresentable := by
  unfold Record.ofJson? at h
  split at h
  · exact isRepresentable_of_ofValues? h
  · split at h
    · cases h
    · dsimp only at h
      split at h
      · cases h
      · obtain ⟨vs, -, read⟩ := Option.bind_eq_some_iff.mp h
        exact isRepresentable_of_ofValues? read
  · cases h

/-- A record is read back from its text if and only if it is one that can be written. -/
theorem parse?_render_iff : Record.parse? r.toJson.render = some r ↔ r.IsRepresentable := by
  rw [Record.parse?, parse?_render (isPlain_toJson r), Option.bind_some]
  exact ⟨isRepresentable_of_ofJson?, ofJson?_toJson⟩

/-- The members of a record are read as the record in any order, and among members with other
keys. -/
theorem parse?_render_of_holds {members : List (Literal × Value)} (h : r.IsRepresentable)
    (holds : Holds members r.members) (plain : membersPlain members = true) :
    Record.parse? (Value.object members).render = some r := by
  have whole : (Value.object members).isPlain = true := plain
  rw [Record.parse?, parse?_render whole, Option.bind_some, holds.ofJson?_eq, ofValues?_values h]

/-- The text of a record is read back as the record, as are texts with its members in another order
and among others. Whatever text is read as a record, the text of this record is one for it, too, and
it is the same for all texts that are read as this record and for no other. -/
theorem Record.text_canonical :
    (∀ r : Record, r.IsRepresentable → Record.parse? r.toJson.render = some r) ∧
    (∀ (r : Record) (members : List (Literal × Value)), r.IsRepresentable →
      Holds members r.members → membersPlain members = true →
        Record.parse? (Value.object members).render = some r) ∧
    (∀ text r, Record.parse? text = some r →
      r.IsRepresentable ∧ Record.parse? r.toJson.render = some r) ∧
    (∀ text text' r r', Record.parse? text = some r → Record.parse? text' = some r' →
      (r.toJson.render = r'.toJson.render ↔ Record.parse? text = Record.parse? text')) ∧
    ∀ r r' : Record, r.IsRepresentable → r'.IsRepresentable →
      r.toJson.render = r'.toJson.render → r = r' := by
  have back {text : String} {r : Record} (read : Record.parse? text = some r) :
      r.IsRepresentable := by
    obtain ⟨v, -, read⟩ := Option.bind_eq_some_iff.mp read
    exact isRepresentable_of_ofJson? read
  have injective (r r' : Record) (h : r.IsRepresentable) (h' : r'.IsRepresentable)
      (same : r.toJson.render = r'.toJson.render) : r = r' := by
    have read := parse?_render_iff.mpr h
    rw [same, parse?_render_iff.mpr h'] at read
    exact (Option.some.inj read).symm
  refine ⟨fun r => parse?_render_iff.mpr, fun r members => parse?_render_of_holds,
    fun text r read => ?_, ?_, injective⟩
  · exact ⟨back read, parse?_render_iff.mpr (back read)⟩
  · intro text text' r r' read read'
    rw [read, read', Option.some.injEq]
    exact ⟨injective r r' (back read) (back read'), fun same => by rw [same]⟩

/-- A record with texts that are escaped or beyond sixteen bits, with numbers at their ends, in a
leap second and in the first year of the calendar. -/
def farRecord : Record where
  event :=
    { sourceIp := "\x00", destinationIp := "\"", domain := "𝄞", port := 65535
      timestamp := ⟨1483228799, 1500000000⟩, latencyMs := -9223372036854775808
      bytesIn := 9223372036854775807, bytesOut := 0, transport := "" }
  createdAt := ⟨-8334601228800, 0⟩

/-- The values of this record in an array, with a blank, other escapes and other offsets. -/
def farValues : String :=
  "[\"\\u0000\",\"\\u0022\",\"\\uD834\\udd1e\" ,65535,\"2017-1-1t5:29:60.50+05:30\"," ++
    "-9223372036854775808,9223372036854775807,0,\"\",\"-262143-01-01 0:0:0 utc\"]"

/-- The members of this record from the last to the first, after one with another key. -/
def farMembers : List (Literal × Value) :=
  (some "id", .nat 1) :: (farRecord.members.map fun m => (some m.1, m.2)).reverse

theorem text_canonical_farRecord : farRecord.IsRepresentable ∧
    Record.parse? farRecord.toJson.render = some farRecord ∧
      Record.parse? (Value.object farMembers).render = some farRecord ∧
        Record.parse? farValues = some farRecord ∧
          Record.parse? farRecord.toJson.render = Record.parse? farValues := by
  have read : Record.parse? farValues = some farRecord := by decide +kernel
  obtain ⟨same, reordered, back, -⟩ := Record.text_canonical
  obtain ⟨far, again⟩ := back farValues farRecord read
  have holds : Holds farMembers farRecord.members := by
    refine ⟨rfl, [(some "id", .nat 1)], ?_, ?_⟩
    · exact ((List.reverse_perm _).cons _).trans (List.perm_append_singleton _ _).symm
    · rintro m member
      cases List.mem_singleton.mp member
      exact ⟨"id", rfl, by decide⟩
  exact ⟨far, same farRecord far, reordered farRecord farMembers far holds rfl, read,
    again.trans read.symm⟩

end ProxyMeter.Traffic
