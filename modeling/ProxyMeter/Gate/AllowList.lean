/-!
# Allow-list

A list of client addresses that may pass, compared as texts. A list that is empty when it is made
restricts nobody, then and later; one that is not restricts from then on, even when every address
has been removed.
-/

namespace ProxyMeter.Gate

/-- Who may pass, and whether that is asked at all (`IpWhitelist`). -/
structure AllowList where
  restricting : Bool
  /-- Each member once. -/
  members : List String
  deriving DecidableEq, Repr

namespace AllowList

/-- The members with one more, each once. -/
def insertOnce (ip : String) (members : List String) : List String :=
  if members.contains ip then members else members ++ [ip]

theorem mem_insertOnce {ip other : String} {members : List String} :
    other ∈ insertOnce ip members ↔ other ∈ members ∨ other = ip := by
  unfold insertOnce
  split
  · next known =>
    constructor
    · exact .inl
    · rintro (member | rfl)
      · exact member
      · exact List.contains_iff_mem.mp known
  · simp

/-- The list of these addresses; repeated ones count once (`IpWhitelist.new`). -/
def ofList (ips : List String) : AllowList :=
  { restricting := !ips.isEmpty
    members := ips.foldl (fun members ip => insertOnce ip members) [] }

/-- The members are the addresses that the list is made of. -/
theorem mem_members_ofList {ip : String} {ips : List String} :
    ip ∈ (ofList ips).members ↔ ip ∈ ips := by
  have fold (members : List String) :
      ip ∈ ips.foldl (fun members ip => insertOnce ip members) members ↔
        ip ∈ members ∨ ip ∈ ips := by
    induction ips generalizing members with
    | nil => simp
    | cons first rest ih => rw [List.foldl_cons, ih, mem_insertOnce, List.mem_cons, or_assoc]
  exact (fold []).trans (by simp)

/-- Whether an address may pass (`IpWhitelist.is_allowed`). -/
def admits (l : AllowList) (ip : String) : Bool :=
  !l.restricting || l.members.contains ip

/-- The list with an address added (`IpWhitelist.add_ip`). -/
def insert (l : AllowList) (ip : String) : AllowList :=
  { l with members := insertOnce ip l.members }

/-- The list without an address (`IpWhitelist.remove_ip`). -/
def erase (l : AllowList) (ip : String) : AllowList :=
  { l with members := l.members.erase ip }

/-- How many addresses the list has (`IpWhitelist.len`). -/
def size (l : AllowList) : Nat := l.members.length

/-- What is done to a list while it is in use. -/
inductive Edit where
  | add (ip : String)
  | remove (ip : String)
  deriving DecidableEq

/-- The list after an edit. -/
def edit (l : AllowList) : Edit → AllowList
  | .add ip => l.insert ip
  | .remove ip => l.erase ip

/-- The list after some edits. -/
def editAll (l : AllowList) (edits : List Edit) : AllowList := edits.foldl edit l

end AllowList

end ProxyMeter.Gate
