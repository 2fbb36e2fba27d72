import Mathlib.Data.Fintype.BigOperators
import Mathlib.Data.List.OfFn
import ProxyMeter.Socks.Address.Parser

/-!
# No list names every host

Hosts are told apart by their written forms, at least those whose groups are all written with four
digits. There are so many of these that a list of fewer than 2 ^ 64 texts leaves one of them out.
-/

namespace ProxyMeter.Socks

namespace Host

/-- A group that is written with four digits, with a byte in it. -/
def wideGroup (b : Fin 256) : Nat := 4096 + b

/-- The digits of such a group hold no colon and are read as the group. -/
theorem digits_wideGroup (b : Fin 256) : ':' ∉ Nat.toDigits 16 (wideGroup b) ∧
    group? (Nat.toDigits 16 (wideGroup b)) = some (wideGroup b) := by
  revert b
  decide +kernel

theorem digits_wideGroup_injective : Function.Injective fun b => Nat.toDigits 16 (wideGroup b) := by
  intro b c same
  have read := (digits_wideGroup b).2
  rw [show Nat.toDigits 16 (wideGroup b) = Nat.toDigits 16 (wideGroup c) from same,
    (digits_wideGroup c).2] at read
  have values := Option.some.inj read
  unfold wideGroup at values
  omega

/-- The octets of such groups. -/
def wideOctets (bs : List (Fin 256)) : List UInt8 := bs.flatMap fun b => [0x10, .ofNat b]

theorem groupsOf_wideOctets (bs : List (Fin 256)) :
    groupsOf (wideOctets bs) = bs.map wideGroup := by
  induction bs with
  | nil => rfl
  | cons b bs ih =>
    have byte : (UInt8.ofNat b).toNat = b := UInt8.toNat_ofNat_of_lt' b.isLt
    change groupsOf (0x10 :: UInt8.ofNat b :: wideOctets bs) = _
    rw [groupsOf, ih, byte]
    rfl

/-- A list without zeros has no run of zeros. -/
theorem longestZeroRun_of_ne_zero {groups : List Nat} (h : ∀ g ∈ groups, g ≠ 0) (i : Nat) :
    (longestZeroRun i groups).2 = 0 := by
  induction groups generalizing i with
  | nil => rfl
  | cons g rest ih =>
    have here : zeroRun (g :: rest) = 0 := by
      cases g with
      | zero => exact absurd rfl (h 0 (.head _))
      | succ g => rfl
    have later := ih (fun g member => h g (.tail _ member)) (i + 1)
    simp [longestZeroRun, here, later]

/-- Groups of four digits are written one by one. -/
theorem compressed_wideGroup (bs : List (Fin 256)) :
    compressed (bs.map wideGroup) = colonGroups (bs.map wideGroup) := by
  have none : (longestZeroRun 0 (bs.map wideGroup)).2 = 0 := by
    apply longestZeroRun_of_ne_zero
    intro g member
    obtain ⟨b, -, rfl⟩ := List.mem_map.mp member
    unfold wideGroup
    omega
  unfold compressed
  cases run : longestZeroRun 0 (bs.map wideGroup) with
  | mk start length =>
    rw [run] at none
    simp [show length = 0 from none]

/-- The form of a host with such groups: it does not stand for one of the fourth version. -/
theorem render_wideOctets (bs : List (Fin 256)) (h : (wideOctets bs).toArray.size = 16) :
    (Host.v6 ⟨(wideOctets bs).toArray, h⟩).render = colonGroups (bs.map wideGroup) := by
  have plain : (wideOctets bs).take 12 ≠ [0, 0, 0, 0, 0, 0, 0, 0, 0, 0, 0xFF, 0xFF] := by
    cases bs <;> simp [wideOctets]
  change (if (wideOctets bs).take 12 = _ then _ else compressed (groupsOf (wideOctets bs))) = _
  rw [if_neg plain, groupsOf_wideOctets, compressed_wideGroup]

/-- The host with eight groups of four digits and these bytes in them. -/
def wide (bs : Fin 8 → Fin 256) : Host :=
  .v6 ⟨(wideOctets (List.ofFn bs)).toArray, by simp [wideOctets]⟩

/-- The groups can be read off the form, which is cut at its colons. -/
theorem splitOn_render_wide (bs : Fin 8 → Fin 256) : (wide bs).render.toList.splitOn ':' =
    (List.ofFn bs).map fun b => Nat.toDigits 16 (wideGroup b) := by
  have form : (wide bs).render.toList =
      [':'].intercalate ((List.ofFn bs).map fun b => Nat.toDigits 16 (wideGroup b)) := by
    rw [wide, render_wideOctets, colonGroups, String.toList_intercalate, List.map_map, List.map_map]
    congr 1
    simp [Text.hexNatural, Function.comp_def]
  rw [form, List.splitOn_intercalate]
  · intro digits member
    obtain ⟨b, -, rfl⟩ := List.mem_map.mp member
    exact (digits_wideGroup b).1
  · simp

/-- Such hosts have different forms. -/
theorem render_wide_injective : Function.Injective fun bs => (wide bs).render := by
  intro bs cs same
  have cut := congrArg (fun form : String => form.toList.splitOn ':') same
  dsimp only at cut
  rw [splitOn_render_wide, splitOn_render_wide] at cut
  exact List.ofFn_injective (List.map_injective_iff.mpr digits_wideGroup_injective cut)

/-- A list leaves out one of more different values than it has places. -/
theorem exists_notMem_of_injective {α β : Type} [Fintype α] [DecidableEq β] {f : α → β}
    (different : Function.Injective f) {l : List β} (few : l.length < Fintype.card α) :
    ∃ a, f a ∉ l := by
  by_contra none
  have all : ∀ a, f a ∈ l := by simpa using none
  have within : Finset.univ.image f ⊆ l.toFinset := by
    intro b member
    obtain ⟨a, -, rfl⟩ := Finset.mem_image.mp member
    exact List.mem_toFinset.mpr (all a)
  have count := (Finset.card_le_card within).trans l.toFinset_card_le
  rw [Finset.card_image_of_injective _ different, Finset.card_univ] at count
  omega

/-- A list of fewer than 2 ^ 64 texts leaves out the form of some host. -/
theorem exists_render_notMem {texts : List String} (few : texts.length < 2 ^ 64) :
    ∃ host : Host, host.render ∉ texts := by
  have many : Fintype.card (Fin 8 → Fin 256) = 2 ^ 64 := by
    rw [Fintype.card_fun, Fintype.card_fin, Fintype.card_fin]
    rfl
  obtain ⟨bs, missing⟩ := exists_notMem_of_injective render_wide_injective (many ▸ few)
  exact ⟨wide bs, missing⟩

end Host

end ProxyMeter.Socks
