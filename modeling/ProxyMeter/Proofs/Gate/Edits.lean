import Mathlib.Data.Finset.Card
import Mathlib.Data.List.Induction
import ProxyMeter.Gate.AllowList

/-!
# Allow-lists that are edited

A list keeps two things apart: whether it restricts at all, which is settled when it is made, and
whom it names, which every addition and every removal changes for one address. So the last operation
on an address decides whether it is named, the first list where there is none, and a list that has
lost all its addresses admits nobody.
-/

namespace ProxyMeter.Gate

namespace AllowList

/-- The address that an edit names. -/
def Edit.ip : Edit → String
  | .add ip | .remove ip => ip

/-- The last edit that names an address. -/
def lastOn? (ip : String) (edits : List Edit) : Option Edit := edits.reverse.find? (·.ip = ip)

/-- Whether edits of a list that was made of some addresses have come to name an address. -/
def Named (ips : List String) (edits : List Edit) (ip : String) : Prop :=
  lastOn? ip edits = some (.add ip) ∨ lastOn? ip edits = none ∧ ip ∈ ips

/-! ### One edit -/

theorem nodup_insertOnce {ip : String} {members : List String} (distinct : members.Nodup) :
    (insertOnce ip members).Nodup := by
  unfold insertOnce
  split
  · exact distinct
  · next new =>
    refine List.nodup_append.mpr ⟨distinct, List.nodup_singleton ip, ?_⟩
    intro other member same only
    cases List.mem_singleton.mp only
    rintro rfl
    exact new (List.contains_iff_mem.mpr member)

theorem nodup_members_ofList (ips : List String) : (ofList ips).members.Nodup := by
  have fold (members : List String) (distinct : members.Nodup) :
      (ips.foldl (fun members ip => insertOnce ip members) members).Nodup := by
    induction ips generalizing members with
    | nil => exact distinct
    | cons first rest ih => exact ih _ (nodup_insertOnce distinct)
  exact fold [] List.nodup_nil

variable {l : AllowList} {e : Edit} {ip : String}

/-- No edit settles anew whether the list restricts. -/
theorem restricting_edit (l : AllowList) (e : Edit) : (l.edit e).restricting = l.restricting := by
  cases e <;> rfl

theorem nodup_edit (distinct : l.members.Nodup) (e : Edit) : (l.edit e).members.Nodup := by
  cases e with
  | add new => exact nodup_insertOnce distinct
  | remove old => exact distinct.erase old

/-- The address of an edit becomes a member if it is added, and is none if it is removed. -/
theorem mem_edit_self (distinct : l.members.Nodup) :
    e.ip ∈ (l.edit e).members ↔ e = .add e.ip := by
  cases e with
  | add new => exact iff_of_true (mem_insertOnce.mpr (.inr rfl)) rfl
  | remove old => exact iff_of_false (List.Nodup.not_mem_erase distinct) nofun

/-- Every other address stays what it is. -/
theorem mem_edit_of_ne (other : e.ip ≠ ip) : ip ∈ (l.edit e).members ↔ ip ∈ l.members := by
  cases e with
  | add new =>
    refine mem_insertOnce.trans ⟨fun h => h.resolve_right ?_, .inl⟩
    exact fun same => other same.symm
  | remove old => exact List.mem_erase_of_ne (Ne.symm other)

/-! ### Runs of edits -/

variable {ips : List String} {edits : List Edit}

theorem editAll_concat (l : AllowList) (edits : List Edit) (e : Edit) :
    l.editAll (edits ++ [e]) = (l.editAll edits).edit e := by
  rw [editAll, List.foldl_append]
  rfl

theorem lastOn?_concat_self (edits : List Edit) (e : Edit) :
    lastOn? e.ip (edits ++ [e]) = some e := by
  simp [lastOn?]

theorem lastOn?_concat_of_ne (other : e.ip ≠ ip) (edits : List Edit) :
    lastOn? ip (edits ++ [e]) = lastOn? ip edits := by
  simp [lastOn?, other]

theorem restricting_editAll (l : AllowList) (edits : List Edit) :
    (l.editAll edits).restricting = l.restricting := by
  induction edits using List.reverseRecOn with
  | nil => rfl
  | append_singleton edits e ih => rw [editAll_concat, restricting_edit, ih]

theorem nodup_editAll (distinct : l.members.Nodup) (edits : List Edit) :
    (l.editAll edits).members.Nodup := by
  induction edits using List.reverseRecOn with
  | nil => exact distinct
  | append_singleton edits e ih =>
    rw [editAll_concat]
    exact nodup_edit ih e

/-- The members are the addresses that the edits have come to name. -/
theorem mem_editAll_iff : ip ∈ ((ofList ips).editAll edits).members ↔ Named ips edits ip := by
  induction edits using List.reverseRecOn with
  | nil => simp [editAll, Named, lastOn?, mem_members_ofList]
  | append_singleton edits e ih =>
    rw [editAll_concat]
    by_cases own : e.ip = ip
    · subst own
      rw [mem_edit_self (nodup_editAll (nodup_members_ofList ips) edits), Named,
        lastOn?_concat_self]
      simp
    · rw [mem_edit_of_ne own, ih, Named, Named, lastOn?_concat_of_ne own]

/-- Only the edits that name an address count for it. -/
theorem named_filter_iff : Named ips (edits.filter (·.ip = ip)) ip ↔ Named ips edits ip := by
  have last : lastOn? ip (edits.filter (·.ip = ip)) = lastOn? ip edits := by
    rw [lastOn?, ← List.filter_reverse, List.find?_filter]
    simp [lastOn?]
  rw [Named, last, Named]

theorem admits_iff : l.admits ip = true ↔ l.restricting = false ∨ ip ∈ l.members := by
  simp [admits]

theorem admits_congr {l' : AllowList} (restricting : l'.restricting = l.restricting)
    (members : ip ∈ l'.members ↔ ip ∈ l.members) : l'.admits ip = l.admits ip := by
  rw [Bool.eq_iff_iff, admits_iff, admits_iff, restricting, members]

/-- What a list that was made of some addresses is after some edits. -/
structure Follows (ips : List String) (edits : List Edit) (l : AllowList) : Prop where
  /-- It restricts if it was made of any address, whatever has been done since. -/
  restricting : l.restricting = true ↔ ips ≠ []
  unrestricted : ips = [] → ∀ ip, l.admits ip = true
  admits : ips ≠ [] → ∀ ip, l.admits ip = true ↔ Named ips edits ip
  /-- Once every address has been removed, nobody is admitted. -/
  emptied : ips ≠ [] → ∀ gone : List String, (∀ ip ∈ l.members, ip ∈ gone) →
    ∀ ip, (l.editAll (gone.map .remove)).admits ip = false
  /-- An edit of one address leaves the others alone. -/
  others : ∀ e ip, e.ip ≠ ip → (l.edit e).admits ip = l.admits ip
  /-- The verdict on an address is the one after the edits of this address only. -/
  own : ∀ ip, l.admits ip = ((ofList ips).editAll (edits.filter (·.ip = ip))).admits ip
  /-- Each of the addresses counts once. -/
  size : ∃ named : Finset String, (∀ ip, ip ∈ named ↔ Named ips edits ip) ∧ l.size = named.card

/-- Removals leave no member that they name. -/
theorem not_mem_editAll_remove {gone : List String} (distinct : l.members.Nodup)
    (all : ∀ ip ∈ l.members, ip ∈ gone) : ip ∉ (l.editAll (gone.map .remove)).members := by
  induction gone generalizing l with
  | nil => exact fun member => List.not_mem_nil (all ip member)
  | cons first rest ih =>
    refine ih (l := l.edit (.remove first)) (nodup_edit distinct _) fun other member => ?_
    obtain ⟨different, known⟩ := distinct.mem_erase_iff.mp member
    exact (List.mem_cons.mp (all other known)).resolve_left different

/-- A list follows its edits, at every point of any run of them. -/
theorem editAll_follows (ips : List String) (edits : List Edit) :
    Follows ips edits ((ofList ips).editAll edits) := by
  have restricting : ((ofList ips).editAll edits).restricting = !ips.isEmpty :=
    restricting_editAll _ edits
  have distinct := nodup_editAll (nodup_members_ofList ips) edits
  have closed (any : ips ≠ []) : ((ofList ips).editAll edits).restricting = true := by
    simp [restricting, any]
  refine ⟨by simp [restricting], fun none ip => ?_, fun any ip => ?_, fun any gone all ip => ?_,
    fun e ip other => ?_, fun ip => ?_, ?_⟩
  · exact admits_iff.mpr (.inl (by rw [restricting, none]; rfl))
  · rw [admits_iff, mem_editAll_iff, closed any]
    simp
  · rw [← Bool.not_eq_true, admits_iff, restricting_editAll, closed any]
    simpa using not_mem_editAll_remove distinct all
  · exact admits_congr (restricting_edit _ e) (mem_edit_of_ne other)
  · refine admits_congr ?_ ?_
    · rw [restricting_editAll, restricting_editAll]
    · rw [mem_editAll_iff, mem_editAll_iff, named_filter_iff]
  · refine ⟨((ofList ips).editAll edits).members.toFinset, fun ip => ?_, ?_⟩
    · rw [List.mem_toFinset, mem_editAll_iff]
    · exact (List.toFinset_card_of_nodup distinct).symm

end AllowList

end ProxyMeter.Gate
