import StickyRouting.Affinity

/-!
# The affinity table, case by case

What a bind and an unbind make of the table and of the working set, given whether the key is
bound and whether the connection is tracked, and what a purge leaves in the table.  A table
whose bindings all lead to tracked connections meets no other cases.
-/

namespace StickyRouting

namespace Connection

variable (connection : Connection)

@[simp]
theorem handle_gainBinding : connection.gainBinding.handle = connection.handle := rfl

@[simp]
theorem meter_gainBinding : connection.gainBinding.meter = connection.meter := rfl

@[simp]
theorem state_gainBinding : connection.gainBinding.state = connection.state := rfl

@[simp]
theorem handle_loseBinding : connection.loseBinding.handle = connection.handle := by
  rw [loseBinding]
  split <;> rfl

@[simp]
theorem meter_loseBinding : connection.loseBinding.meter = connection.meter := by
  rw [loseBinding]
  split <;> rfl

@[simp]
theorem state_loseBinding : connection.loseBinding.state = connection.state := by
  rw [loseBinding]
  split <;> rfl

theorem toNat_affinityCount_gainBinding (hroom : connection.affinityCount.toNat + 1 < UInt32.size) :
    connection.gainBinding.affinityCount.toNat = connection.affinityCount.toNat + 1 := by
  rw [gainBinding, UInt32.toNat_add]
  exact Nat.mod_eq_of_lt hroom

theorem toNat_affinityCount_loseBinding :
    connection.loseBinding.affinityCount.toNat = connection.affinityCount.toNat - 1 := by
  rw [loseBinding]
  split
  · next hzero => simp [hzero]
  · next hcount =>
      have hone : 1 ≤ connection.affinityCount := by
        rw [UInt32.le_iff_toNat_le]
        have hpositive : connection.affinityCount.toNat ≠ 0 := by
          simpa [← UInt32.toNat_inj] using hcount
        simpa using Nat.one_le_iff_ne_zero.mpr hpositive
      simpa using UInt32.toNat_sub_of_le _ _ hone

end Connection

namespace WorkingSet

variable {connections : WorkingSet} {id : ConnectionId}

theorem mem_iff : id ∈ connections ↔ ∃ connection, connections[id]? = some connection := by
  rw [Std.ExtTreeMap.mem_iff_isSome_getElem?, Option.isSome_iff_exists]

theorem not_mem_iff : id ∉ connections ↔ connections[id]? = none := by
  rw [Std.ExtTreeMap.mem_iff_isSome_getElem?, Option.not_isSome_iff_eq_none]

theorem modify_eq_insert {connection : Connection} (hid : connections[id]? = some connection)
    (change : Connection → Connection) :
    connections.modify id change = connections.insert id (change connection) := by
  apply Std.ExtTreeMap.ext_getElem?
  intro other
  rw [Std.ExtTreeMap.getElem?_modify, Std.ExtTreeMap.getElem?_insert, hid]
  rfl

/-- What is found after an insertion was inserted or was found before. -/
theorem insert_cases {other : ConnectionId} {changed tracked : Connection}
    (hother : (connections.insert id changed)[other]? = some tracked) :
    other = id ∧ tracked = changed ∨ other ≠ id ∧ connections[other]? = some tracked := by
  rw [Std.ExtTreeMap.getElem?_insert] at hother
  by_cases hsame : compare id other = .eq
  · rw [if_pos hsame] at hother
    exact .inl ⟨(Std.LawfulEqCmp.eq_of_compare hsame).symm, (Option.some.inj hother).symm⟩
  · rw [if_neg hsame] at hother
    refine .inr ⟨?_, hother⟩
    rintro rfl
    exact hsame Std.ReflCmp.compare_self

theorem erase_cases {other : ConnectionId} {tracked : Connection}
    (hother : (connections.erase id)[other]? = some tracked) :
    other ≠ id ∧ connections[other]? = some tracked := by
  rw [Std.ExtTreeMap.getElem?_erase] at hother
  by_cases hsame : compare id other = .eq
  · rw [if_pos hsame] at hother
    cases hother
  · rw [if_neg hsame] at hother
    refine ⟨?_, hother⟩
    rintro rfl
    exact hsame Std.ReflCmp.compare_self

end WorkingSet

namespace AffinityTable

variable {table : AffinityTable} {connections : WorkingSet} {key : String}
  {id : ConnectionId} {connection : Connection}

theorem getElem?_purge (table : AffinityTable) (id : ConnectionId) (key : String) :
    (table.purge id)[key]? = (table[key]?).filter fun bound => bound ≠ id := by
  rw [purge]
  simp

/-- A purge leaves the keys of the other connections alone. -/
theorem purge_eq_some_iff {purged : ConnectionId} (hne : id ≠ purged) (key : String) :
    (table.purge purged)[key]? = some id ↔ table[key]? = some id := by
  rw [getElem?_purge, Option.filter_eq_some_iff]
  simp [hne]

theorem mem_keysOf : key ∈ table.keysOf id ↔ table[key]? = some id := by
  simp [keysOf, Std.ExtTreeMap.mem_toList_iff_getElem?_eq_some]

theorem bind_unknown (hkey : table[key]? = none) (hid : connections[id]? = none) :
    table.bind connections key id =
      ⟨table, connections, .error (.unknownConnection id), []⟩ := by
  simp only [bind, bindNew, hkey, hid]

theorem bind_inserted (hkey : table[key]? = none) (hid : connections[id]? = some connection) :
    table.bind connections key id =
      ⟨table.insert key id, connections.insert id connection.gainBinding, .ok .inserted, []⟩ := by
  simp only [bind, bindNew, hkey, hid]

theorem bind_incremented (hkey : table[key]? = some id)
    (hid : connections[id]? = some connection) (requested : ConnectionId) :
    table.bind connections key requested =
      { table
        connections := connections.insert id connection.gainBinding
        outcome := .ok (.incremented id)
        notices := if id = requested then [] else [.keyAlreadyBound key id requested] } := by
  simp only [bind, hkey, hid]

/-- If every key leads to a tracked connection, a bind fails on an unknown connection, binds an
unbound key, or adds a binding to the connection of a bound key. -/
theorem bind_cases (table : AffinityTable) (connections : WorkingSet)
    (hanchored : ∀ (key : String) (id : ConnectionId), table[key]? = some id → id ∈ connections)
    (key : String) (requested : ConnectionId) :
    (table[key]? = none ∧ requested ∉ connections ∧
        table.bind connections key requested =
          ⟨table, connections, .error (.unknownConnection requested), []⟩) ∨
      (∃ connection, table[key]? = none ∧ connections[requested]? = some connection ∧
        table.bind connections key requested =
          ⟨table.insert key requested, connections.insert requested connection.gainBinding,
            .ok .inserted, []⟩) ∨
      ∃ id connection notices, table[key]? = some id ∧ connections[id]? = some connection ∧
        table.bind connections key requested =
          ⟨table, connections.insert id connection.gainBinding, .ok (.incremented id),
            notices⟩ := by
  cases hkey : table[key]? with
  | none =>
      cases hid : connections[requested]? with
      | none =>
          have huntracked := WorkingSet.not_mem_iff.mpr hid
          exact .inl ⟨rfl, huntracked, bind_unknown hkey hid⟩
      | some connection => exact .inr (.inl ⟨connection, rfl, rfl, bind_inserted hkey hid⟩)
  | some id =>
      obtain ⟨connection, hid⟩ := WorkingSet.mem_iff.mp (hanchored key id hkey)
      exact .inr (.inr ⟨id, connection, _, rfl, hid, bind_incremented hkey hid requested⟩)

theorem unbind_unbound (hkey : table[key]? = none) :
    table.unbind connections key = ⟨table, connections, false, [.keyNotBound key]⟩ := by
  simp only [unbind, hkey]

theorem unbind_decremented (hkey : table[key]? = some id)
    (hid : connections[id]? = some connection)
    (hcount : connection.loseBinding.affinityCount ≠ 0) :
    table.unbind connections key =
      ⟨table, connections.insert id connection.loseBinding, false, []⟩ := by
  have hpositive : 0 < connection.loseBinding.affinityCount := UInt32.pos_iff_ne_zero.mpr hcount
  simp only [unbind, hkey, WorkingSet.modify_eq_insert hid,
    Std.ExtTreeMap.getElem?_insert_self, Option.elim_some, hpositive, if_true]

theorem unbind_released (hkey : table[key]? = some id)
    (hid : connections[id]? = some connection)
    (hcount : connection.loseBinding.affinityCount = 0) :
    table.unbind connections key =
      { table := table.purge id
        connections := connections.insert id connection.loseBinding
        released := true
        notices := if 1 < (table.keysOf id).length then [.keysReleased id] else [] } := by
  simp only [unbind, hkey, WorkingSet.modify_eq_insert hid,
    Std.ExtTreeMap.getElem?_insert_self, Option.elim_some, hcount, UInt32.lt_irrefl, if_false]

/-- If every key leads to a tracked connection, an unbind finds no binding, takes one of several
bindings away, or takes the last one away and releases all keys of the connection. -/
theorem unbind_cases (table : AffinityTable) (connections : WorkingSet)
    (hanchored : ∀ (key : String) (id : ConnectionId), table[key]? = some id → id ∈ connections)
    (key : String) :
    (table[key]? = none ∧
        table.unbind connections key = ⟨table, connections, false, [.keyNotBound key]⟩) ∨
      ∃ id connection, table[key]? = some id ∧ connections[id]? = some connection ∧
        (connection.loseBinding.affinityCount ≠ 0 ∧
            table.unbind connections key =
              ⟨table, connections.insert id connection.loseBinding, false, []⟩ ∨
          ∃ notices, connection.loseBinding.affinityCount = 0 ∧
            table.unbind connections key =
              ⟨table.purge id, connections.insert id connection.loseBinding, true,
                notices⟩) := by
  cases hkey : table[key]? with
  | none => exact .inl ⟨rfl, unbind_unbound hkey⟩
  | some id =>
      obtain ⟨connection, hid⟩ := WorkingSet.mem_iff.mp (hanchored key id hkey)
      refine .inr ⟨id, connection, rfl, hid, ?_⟩
      by_cases hcount : connection.loseBinding.affinityCount = 0
      · exact .inr ⟨_, hcount, unbind_released hkey hid hcount⟩
      · exact .inl ⟨hcount, unbind_decremented hkey hid hcount⟩

end AffinityTable

end StickyRouting
