import Mathlib.Data.List.Nodup
import Switchboard.Proofs.Hub.Consistency

/-! # Everybody is counted once

A hub reports how many accounts, desktops and mobiles are connected.  The members of all
rooms, listed one room after the other, are the keys of the index in another order, as
nobody is in two rooms and nobody is in a room twice; so the two counts agree.

* `Room.members`, `census` — the members of one room, and of all;
* `Consistent.census_perm` — they are the keys of the index;
* `Consistent.desktops_add_mobiles` — what is reported adds up to the size of the index.
-/

namespace Switchboard

/-- The names of the members of a room. -/
def Room.members (r : Room) : List ConnectionId :=
  (r.desktop.map (·.id)).toList ++ r.mobiles.keys

namespace Room

theorem mem_members {r : Room} {c : ConnectionId} : c ∈ r.members ↔ r.Holds c := by
  unfold members Holds
  rw [List.mem_append, isDesktop_iff, Std.ExtTreeMap.mem_keys]
  simp

theorem length_members (r : Room) : r.members.length = r.size := by
  unfold members size
  rw [List.length_append, Std.ExtTreeMap.length_keys]
  cases r.desktop <;> simp [Nat.add_comm]

theorem WellFormed.nodup_members {account : AccountId} {r : Room} (hr : r.WellFormed account) :
    r.members.Nodup := by
  unfold members
  cases hd : r.desktop with
  | none => simpa using Std.ExtTreeMap.nodup_keys
  | some d =>
    have hapart : d.id ∉ r.mobiles.keys := by
      rw [Std.ExtTreeMap.mem_keys]
      exact hr.apart d hd
    exact List.nodup_cons.2 ⟨hapart, Std.ExtTreeMap.nodup_keys⟩

/-- The members of some rooms are their desktops and their mobiles, counted apart. -/
theorem length_flatMap_members (rs : List Room) :
    (rs.flatMap members).length
      = (rs.filter (·.desktop.isSome)).length
        + rs.foldr (fun r n => r.mobiles.size + n) 0 := by
  induction rs with
  | nil => rfl
  | cons r rs ih =>
    rw [List.flatMap_cons, List.length_append, ih, length_members, List.foldr_cons,
      List.filter_cons, size]
    cases r.desktop.isSome with
    | true =>
      simp only [if_true, List.length_cons]
      omega
    | false =>
      simp only [Bool.false_eq_true, if_false]
      omega

end Room

namespace Hub

/-- The names of the members of all rooms, one room after the other. -/
def census (h : Hub) : List ConnectionId := h.rooms.toList.flatMap fun e => e.2.members

theorem length_census (h : Hub) :
    h.census.length = h.stats.desktops + h.stats.mobiles := by
  unfold census stats
  rw [← Room.length_flatMap_members, Table.values, List.flatMap_map]

namespace Consistent

variable {h : Hub}

theorem mem_census (hc : h.Consistent) {c : ConnectionId} : c ∈ h.census ↔ c ∈ h.index := by
  unfold census
  rw [List.mem_flatMap, Table.mem_iff_lookup]
  constructor
  · rintro ⟨⟨account, r⟩, hmem, hm⟩
    rw [Std.ExtTreeMap.mem_toList_iff_getElem?_eq_some] at hmem
    refine ⟨account, (hc.index_iff c account).2 ?_⟩
    rw [room_of_lookup hmem]
    exact Room.mem_members.1 hm
  · rintro ⟨account, hi⟩
    have hh := (hc.index_iff c account).1 hi
    exact ⟨(account, h.room account),
      Std.ExtTreeMap.mem_toList_iff_getElem?_eq_some.2 (lookup_room_of_holds hh),
      Room.mem_members.2 hh⟩

theorem nodup_census (hc : h.Consistent) : h.census.Nodup := by
  unfold census
  rw [List.nodup_flatMap]
  constructor
  · -- within one room
    rintro ⟨account, r⟩ hmem
    rw [Std.ExtTreeMap.mem_toList_iff_getElem?_eq_some] at hmem
    have hwf := hc.wellFormed account
    rw [room_of_lookup hmem] at hwf
    exact hwf.nodup_members
  · -- between two rooms: the index cannot lead to both
    refine Std.ExtTreeMap.distinct_keys_toList.imp_of_mem ?_
    rintro ⟨a, r⟩ ⟨a', r'⟩ hmem hmem' hne c hm hm'
    rw [Std.ExtTreeMap.mem_toList_iff_getElem?_eq_some] at hmem hmem'
    have hin : (h.room a).Holds c := by
      rw [room_of_lookup hmem]
      exact Room.mem_members.1 hm
    have hin' : (h.room a').Holds c := by
      rw [room_of_lookup hmem']
      exact Room.mem_members.1 hm'
    exact hne (Std.LawfulEqCmp.compare_eq_iff_eq.2 (hc.eq_of_holds hin hin'))

theorem census_perm (hc : h.Consistent) : h.census.Perm h.index.keys := by
  rw [List.perm_ext_iff_of_nodup hc.nodup_census Std.ExtTreeMap.nodup_keys]
  intro c
  rw [hc.mem_census, Std.ExtTreeMap.mem_keys]

theorem desktops_add_mobiles (hc : h.Consistent) :
    h.stats.desktops + h.stats.mobiles = h.index.size := by
  rw [← length_census, hc.census_perm.length_eq, Std.ExtTreeMap.length_keys]

end Consistent

end Hub

end Switchboard
