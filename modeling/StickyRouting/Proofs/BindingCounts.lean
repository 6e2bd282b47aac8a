import StickyRouting.Proofs.Effect

/-!
# The history behind a count of bindings

A connection counts the bindings that rest on it, whichever keys they were made for, and the
table keeps a key as long as its connection counts anything.  Here each bind and each unbind is
credited to the connection that it acts on.  The count is the number of binds less the number
of unbinds since the connection was granted, and its keys are those of the binds since the
count was zero for the last time.
-/

namespace StickyRouting

inductive Credit where
  | bind (key : String)
  | unbind (key : String)
  deriving DecidableEq

namespace Credit

def isBind : Credit → Bool
  | bind _ => true
  | unbind _ => false

/-- The number of binds in a history, which lists credits, the latest first. -/
def binds (history : List Credit) : Nat :=
  history.countP fun credit => credit.isBind

def unbinds (history : List Credit) : Nat :=
  history.countP fun credit => !credit.isBind

/-- The part of a history since binds and unbinds were balanced for the last time. -/
def sinceZero : List Credit → List Credit
  | [] => []
  | credit :: older =>
      if binds (credit :: older) = unbinds (credit :: older) then []
      else credit :: sinceZero older

variable {history : List Credit} {key : String}

@[simp]
theorem binds_bind : binds (bind key :: history) = binds history + 1 :=
  List.countP_cons_of_pos rfl

@[simp]
theorem binds_unbind : binds (unbind key :: history) = binds history :=
  List.countP_cons_of_neg Bool.false_ne_true

@[simp]
theorem unbinds_bind : unbinds (bind key :: history) = unbinds history :=
  List.countP_cons_of_neg Bool.false_ne_true

@[simp]
theorem unbinds_unbind : unbinds (unbind key :: history) = unbinds history + 1 :=
  List.countP_cons_of_pos rfl

theorem sinceZero_of_balanced (hbalanced : binds history = unbinds history) :
    sinceZero history = [] := by
  cases history with
  | nil => rfl
  | cons credit older => rw [sinceZero, if_pos hbalanced]

theorem sinceZero_cons {credit : Credit}
    (hopen : binds (credit :: history) ≠ unbinds (credit :: history)) :
    sinceZero (credit :: history) = credit :: sinceZero history := by
  rw [sinceZero, if_neg hopen]

/-- A history with more binds than unbinds has a bind since it was balanced last. -/
theorem exists_bind_of_lt (hmore : unbinds history < binds history) :
    ∃ key, bind key ∈ sinceZero history := by
  induction history with
  | nil => exact absurd hmore (Nat.lt_irrefl 0)
  | cons credit older ih =>
      rw [sinceZero_cons (Nat.ne_of_gt hmore)]
      cases credit with
      | bind key => exact ⟨key, List.mem_cons_self⟩
      | unbind key =>
          rw [binds_unbind, unbinds_unbind] at hmore
          obtain ⟨bound, hbound⟩ := ih (Nat.lt_of_succ_lt hmore)
          exact ⟨bound, List.mem_cons_of_mem _ hbound⟩

end Credit

/-- What an operation is credited to a tracked connection as, if it is credited to it. -/
def Books.credit? (books : Books) (id : ConnectionId) : Pool.Operation → Option Credit
  | .event (.bind key requested) =>
      if books.affinity[key]? = some id ∨ books.affinity[key]? = none ∧ requested = id then
        some (.bind key)
      else none
  | .event (.unbind key) => if books.affinity[key]? = some id then some (.unbind key) else none
  | .create | .publish | .event (.resolved _) | .event (.stateChanged _ _) | .event .scaleUp =>
      none

/-- The history of a connection after an operation.  It begins anew when the channel grants the
connection. -/
def Books.history (books : Books) (operation : Pool.Operation) (granted : List Handle)
    (id : ConnectionId) (before : List Credit) : List Credit :=
  if granted.any fun handle => handle.id = id then []
  else (books.credit? id operation).toList ++ before

/-- Whether a connection and its keys agree with a history. -/
structure Account (table : AffinityTable) (id : ConnectionId) (connection : Connection)
    (history : List Credit) : Prop where
  count : connection.affinityCount.toNat + Credit.unbinds history = Credit.binds history
  keys : ∀ key : String, table[key]? = some id ↔ .bind key ∈ Credit.sinceZero history

namespace Account

variable {table next : AffinityTable} {id : ConnectionId} {connection changed : Connection}
  {history : List Credit} {key : String}

theorem start (hcount : connection.affinityCount = 0)
    (hkeys : ∀ key : String, table[key]? ≠ some id) : Account table id connection [] where
  count := by
    rw [hcount]
    rfl
  keys key := iff_of_false (hkeys key) List.not_mem_nil

/-- An account depends on the count and on the keys of its own connection only. -/
theorem keep (haccount : Account table id connection history)
    (hcount : changed.affinityCount = connection.affinityCount)
    (hkeys : ∀ key : String, next[key]? = some id ↔ table[key]? = some id) :
    Account next id changed history where
  count := by
    rw [hcount]
    exact haccount.count
  keys key := (hkeys key).trans (haccount.keys key)

theorem count_pos_iff (haccount : Account table id connection history) :
    0 < connection.affinityCount.toNat ↔ ∃ key : String, table[key]? = some id := by
  have hcount := haccount.count
  simp only [haccount.keys]
  constructor
  · intro hpositive
    exact Credit.exists_bind_of_lt (by omega)
  · rintro ⟨key, hkey⟩
    by_cases hbalanced : Credit.binds history = Credit.unbinds history
    · rw [Credit.sinceZero_of_balanced hbalanced] at hkey
      exact absurd hkey List.not_mem_nil
    · omega

theorem bind (haccount : Account table id connection history)
    (hroom : connection.affinityCount.toNat + 1 < UInt32.size)
    (hkeys : ∀ other : String, next[other]? = some id ↔ other = key ∨ table[other]? = some id) :
    Account next id connection.gainBinding (.bind key :: history) := by
  have hcount := haccount.count
  have hgained := connection.toNat_affinityCount_gainBinding hroom
  refine ⟨?_, fun other => ?_⟩
  · rw [Credit.binds_bind, Credit.unbinds_bind]
    omega
  · have hopen : Credit.binds (.bind key :: history) ≠ Credit.unbinds (.bind key :: history) := by
      rw [Credit.binds_bind, Credit.unbinds_bind]
      omega
    rw [Credit.sinceZero_cons hopen, List.mem_cons, Credit.bind.injEq, hkeys, haccount.keys]

theorem count_unbind (haccount : Account table id connection history)
    (hkey : table[key]? = some id) :
    connection.loseBinding.affinityCount.toNat + Credit.unbinds (.unbind key :: history) =
      Credit.binds (.unbind key :: history) := by
  have hpositive := haccount.count_pos_iff.mpr ⟨key, hkey⟩
  have hcount := haccount.count
  rw [connection.toNat_affinityCount_loseBinding, Credit.binds_unbind, Credit.unbinds_unbind]
  omega

theorem unbind (haccount : Account table id connection history) (hkey : table[key]? = some id)
    (hleft : connection.loseBinding.affinityCount ≠ 0) :
    Account table id connection.loseBinding (.unbind key :: history) := by
  have hcount := haccount.count_unbind hkey
  refine ⟨hcount, fun other => ?_⟩
  have hpositive : connection.loseBinding.affinityCount.toNat ≠ 0 := by
    simpa [← UInt32.toNat_inj] using hleft
  rw [Credit.sinceZero_cons (by omega), List.mem_cons, haccount.keys]
  simp

theorem release (haccount : Account table id connection history) (hkey : table[key]? = some id)
    (hleft : connection.loseBinding.affinityCount = 0) :
    Account (table.purge id) id connection.loseBinding (.unbind key :: history) := by
  have hcount := haccount.count_unbind hkey
  refine ⟨hcount, fun other => ?_⟩
  rw [hleft, UInt32.toNat_zero, Nat.zero_add] at hcount
  rw [Credit.sinceZero_of_balanced hcount.symm, AffinityTable.getElem?_purge]
  refine iff_of_false ?_ List.not_mem_nil
  simp

end Account

/-! ## What an operation does to the accounts -/

/-- Whether the accounts of all tracked connections agree with their histories. -/
def Books.Accounted (books : Books) (histories : ConnectionId → List Credit) : Prop :=
  ∀ (id : ConnectionId) (connection : Connection), books.connections[id]? = some connection →
    Account books.affinity id connection (histories id)

def Books.HasRoom (books : Books) (operation : Pool.Operation) : Prop :=
  ∀ entry ∈ books.connections.toList,
    (books.credit? entry.1 operation).any Credit.isBind →
      entry.2.affinityCount.toNat + 1 < UInt32.size

namespace Books

variable {books : Books} {id : ConnectionId} {operation : Pool.Operation}

theorem HasRoom.room (hroom : books.HasRoom operation) {connection : Connection} {key : String}
    (hid : books.connections[id]? = some connection)
    (hcredit : books.credit? id operation = some (.bind key)) :
    connection.affinityCount.toNat + 1 < UInt32.size := by
  refine hroom (id, connection) (Std.ExtTreeMap.mem_toList_iff_getElem?_eq_some.mpr hid) ?_
  rw [hcredit]
  rfl

theorem credit?_bind_unbound {key : String} (hkey : books.affinity[key]? = none)
    (requested id : ConnectionId) :
    books.credit? id (.event (.bind key requested)) =
      if requested = id then some (.bind key) else none := by
  simp [credit?, hkey]

theorem credit?_bind_bound {key : String} {holder : ConnectionId}
    (hkey : books.affinity[key]? = some holder) (requested id : ConnectionId) :
    books.credit? id (.event (.bind key requested)) =
      if holder = id then some (.bind key) else none := by
  simp [credit?, hkey]

theorem credit?_unbind {key : String} {holder : ConnectionId}
    (hkey : books.affinity[key]? = some holder) (id : ConnectionId) :
    books.credit? id (.event (.unbind key)) =
      if holder = id then some (.unbind key) else none := by
  simp [credit?, hkey]

theorem credit?_stateChanged (books : Books) (id changed : ConnectionId)
    (state : ConnectivityState) :
    books.credit? id (.event (.stateChanged changed state)) = none := rfl

theorem history_of_none (hcredit : books.credit? id operation = none) (before : List Credit) :
    books.history operation [] id before = before := by
  rw [history, hcredit]
  rfl

theorem history_of_some {credit : Credit} (hcredit : books.credit? id operation = some credit)
    (before : List Credit) : books.history operation [] id before = credit :: before := by
  rw [history, hcredit]
  rfl

theorem history_of_granted (handle : Handle) (before : List Credit) :
    books.history operation [handle] handle.id before = [] := by
  simp [history]

theorem history_of_creates (hcreates : operation.Creates) {handle : Handle}
    (hne : id ≠ handle.id) (before : List Credit) :
    books.history operation [handle] id before = before := by
  have hcredit : books.credit? id operation = none := by
    cases operation with
    | create | publish => rfl
    | event event => cases event <;> first | rfl | exact hcreates.elim
  simp [history, hcredit, hne.symm]

theorem Quiet.credit?_eq_none (hquiet : books.Quiet operation) (hid : id ∈ books.connections) :
    books.credit? id operation = none := by
  cases operation with
  | create | publish => rfl
  | event event =>
      cases event with
      | resolved resolution => rfl
      | stateChanged changed state => rfl
      | scaleUp => rfl
      | bind key requested =>
          obtain ⟨hkey, huntracked⟩ := hquiet
          have hne : requested ≠ id := by
            rintro rfl
            exact huntracked hid
          simp [credit?, hkey, hne]
      | unbind key => simp [credit?, show books.affinity[key]? = none from hquiet]

end Books

/-- A credit to one connection keeps the accounts if it keeps the account of that connection
and the keys of the others. -/
theorem Books.Accounted.credit {books : Books} {operation : Pool.Operation}
    {histories : ConnectionId → List Credit} (haccounted : books.Accounted histories)
    {holder : ConnectionId} {changed : Connection} {table : AffinityTable} {credit : Credit}
    (hcredit : ∀ id : ConnectionId,
      books.credit? id operation = if holder = id then some credit else none)
    (hholder : Account table holder changed (credit :: histories holder))
    (hothers : ∀ id : ConnectionId, id ≠ holder →
      ∀ key : String, table[key]? = some id ↔ books.affinity[key]? = some id) :
    Books.Accounted
      { books with connections := books.connections.insert holder changed, affinity := table }
      fun id => books.history operation [] id (histories id) := by
  intro id connection hid
  have hown := hcredit id
  rcases WorkingSet.insert_cases hid with ⟨rfl, rfl⟩ | ⟨hne, hold⟩
  · rw [if_pos rfl] at hown
    simp only [Books.history_of_some hown]
    exact hholder
  · rw [if_neg hne.symm] at hown
    simp only [Books.history_of_none hown]
    exact (haccounted id connection hold).keep rfl (hothers id hne)

/-- Every effect on the books agrees with what it adds to the histories. -/
theorem Effect.accounted {books next : Books} {operation : Pool.Operation}
    {granted : List Handle} (heffect : Effect books operation granted next)
    (hanchored : books.Anchored) (hfresh : ∀ handle ∈ granted, handle.id ∉ books.connections)
    (hroom : books.HasRoom operation) {histories : ConnectionId → List Credit}
    (haccounted : books.Accounted histories) :
    next.Accounted fun id => books.history operation granted id (histories id) := by
  cases heffect with
  | quiet hquiet =>
      intro id connection hid
      have hmem := WorkingSet.mem_iff.mpr ⟨connection, hid⟩
      simp only [Books.history_of_none (hquiet.credit?_eq_none hmem)]
      exact haccounted id connection hid
  | tracked hcreates handle =>
      intro id connection hid
      rcases WorkingSet.insert_cases hid with ⟨rfl, rfl⟩ | ⟨hne, hold⟩
      · -- A key leads to a tracked connection, so none leads to an identifier that is fresh.
        simp only [Books.history_of_granted]
        have hunused := hfresh handle List.mem_cons_self
        exact .start rfl fun key hkey => hunused (hanchored key handle.id hkey)
      · simp only [Books.history_of_creates hcreates hne]
        exact haccounted id connection hold
  | @inserted key id connection hkey hid =>
      have hcredit := Books.credit?_bind_unbound hkey id
      have hspace := hroom.room hid ((hcredit id).trans (if_pos rfl))
      apply haccounted.credit hcredit ((haccounted id connection hid).bind hspace ?_) ?_
      · intro other
        grind
      · intro other hne bound
        grind
  | @incremented key id connection requested hkey hid =>
      have hcredit := Books.credit?_bind_bound hkey requested
      have hspace := hroom.room hid ((hcredit id).trans (if_pos rfl))
      apply haccounted.credit hcredit ((haccounted id connection hid).bind hspace ?_) ?_
      · intro other
        grind
      · exact fun _ _ _ => Iff.rfl
  | decremented hkey hid hcount =>
      exact haccounted.credit (Books.credit?_unbind hkey)
        ((haccounted _ _ hid).unbind hkey hcount) fun _ _ _ => Iff.rfl
  | released hkey hid hcount =>
      exact haccounted.credit (Books.credit?_unbind hkey)
        ((haccounted _ _ hid).release hkey hcount) fun _ hne => AffinityTable.purge_eq_some_iff hne
  | moved hmoved _ =>
      intro id connection hid
      simp only [Books.history_of_none (Books.credit?_stateChanged books _ _ _)]
      rcases WorkingSet.insert_cases hid with ⟨rfl, rfl⟩ | ⟨_, hold⟩
      · exact (haccounted id _ hmoved).keep rfl fun _ => Iff.rfl
      · exact haccounted id connection hold
  | evicted _ =>
      intro id connection hid
      simp only [Books.history_of_none (Books.credit?_stateChanged books _ _ _)]
      obtain ⟨hne, hold⟩ := WorkingSet.erase_cases hid
      exact (haccounted id connection hold).keep rfl (AffinityTable.purge_eq_some_iff hne)

/-- Whether a job leaves every count of bindings below its limit. -/
def Job.HasRoom (job : Job) : Prop :=
  job.pool.books.HasRoom job.operation

instance : DecidablePred Job.HasRoom := fun job =>
  inferInstanceAs (Decidable (∀ entry ∈ job.pool.books.connections.toList,
    (job.pool.books.credit? entry.1 job.operation).any Credit.isBind →
      entry.2.affinityCount.toNat + 1 < UInt32.size))

namespace Run

/-- The credits of a connection since it was granted, the latest first. -/
def history (id : ConnectionId) : Run → List Credit
  | start _ => []
  | next run move =>
      (run.service.job? move).elim (run.history id) fun job =>
        job.pool.books.history job.operation job.outcome.granted id (run.history id)

theorem accounted (run : Run) (hfresh : run.Follows Job.Fresh) (hroom : run.Follows Job.HasRoom)
    {pool : Pool} (hopen : run.service.pool = some pool) :
    pool.books.Accounted fun id => run.history id := by
  induction hopen using pool_induction with
  | start config =>
      intro id connection hid
      simp [Pool.books] at hid
  | job run move job hjob heffect ih =>
      have hanchored := run.anchored (Service.pool_of_job hjob)
      have hnext := heffect.accounted hanchored (hfresh.2 job hjob) (hroom.2 job hjob)
        (ih hfresh.1 hroom.1)
      simpa only [history, hjob, Option.elim_some] using hnext
  | idle run move pool hopen hjob hfront ih =>
      simpa only [history, hjob, Option.elim_none] using ih hfresh.1 hroom.1

/-- As long as the channel grants no identifier that is in use and no count reaches its limit,
the count of a tracked connection is the number of binds less the number of unbinds credited to
it, its keys are those of the binds since the count was zero for the last time, and it counts
something exactly while it has a key.  So an unbind of one of its keys always finds a binding
to take away. -/
theorem history_exact (run : Run) (hfresh : run.Follows Job.Fresh)
    (hroom : run.Follows Job.HasRoom) {pool : Pool} (hopen : run.service.pool = some pool)
    {id : ConnectionId} {connection : Connection}
    (hid : pool.connections[id]? = some connection) :
    connection.affinityCount.toNat + Credit.unbinds (run.history id) =
        Credit.binds (run.history id) ∧
      (∀ key : String,
        pool.affinity[key]? = some id ↔ .bind key ∈ Credit.sinceZero (run.history id)) ∧
      (0 < connection.affinityCount.toNat ↔ ∃ key : String, pool.affinity[key]? = some id) ∧
      (∀ key : String, pool.affinity[key]? = some id →
        connection.loseBinding.affinityCount.toNat + 1 = connection.affinityCount.toNat) := by
  have haccount := run.accounted hfresh hroom hopen id connection hid
  refine ⟨haccount.count, haccount.keys, haccount.count_pos_iff, fun key hkey => ?_⟩
  have hpositive := haccount.count_pos_iff.mpr ⟨key, hkey⟩
  rw [connection.toNat_affinityCount_loseBinding]
  omega

/-- A key whose only binding was taken away stays bound while a second key of its connection
keeps the count above zero. -/
theorem history_exact_shared :
    let run := ofMoves {} [.grant 0 .first, .handle (.bind "one" .first),
      .handle (.bind "two" .first), .handle (.unbind "one")]
    ∃ pool connection, run.service.pool = some pool ∧ run.Follows Job.Fresh ∧
      run.Follows Job.HasRoom ∧ pool.connections[ConnectionId.first]? = some connection ∧
        run.history .first = [.unbind "one", .bind "two", .bind "one"] ∧
          connection.affinityCount.toNat = 1 ∧ pool.affinity["one"]? = some .first := by
  intro run
  obtain ⟨pool, hopen⟩ : ∃ pool, run.service.pool = some pool := ⟨_, rfl⟩
  obtain ⟨connection, hid⟩ : ∃ connection, pool.connections[ConnectionId.first]? =
      some connection := by
    cases hopen
    exact ⟨_, rfl⟩
  have hfresh : run.Follows Job.Fresh := by decide
  have hroom : run.Follows Job.HasRoom := by decide
  have hhistory : run.history .first = [.unbind "one", .bind "two", .bind "one"] := by decide
  obtain ⟨hcount, hkeys, _, _⟩ := run.history_exact hfresh hroom hopen hid
  rw [hhistory] at hcount hkeys
  refine ⟨pool, connection, hopen, hfresh, hroom, hid, hhistory, ?_, ?_⟩
  · exact Nat.add_right_cancel hcount
  · exact (hkeys "one").mpr (by decide)

end Run

end StickyRouting
