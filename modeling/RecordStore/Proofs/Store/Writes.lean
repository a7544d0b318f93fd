import RecordStore.Proofs.Predicate.Carried
import RecordStore.Proofs.Sql.Recognized
import RecordStore.Proofs.Store.Failing
import RecordStore.Proofs.Store.Lookups
import RecordStore.Proofs.Store.Orderly

/-!
What a change leaves of a store. Every other table stays as it was, in every file and for every
connection, and a change that fails leaves them all, unless the medium takes the transaction with
it.
-/
namespace RecordStore

open Sql

namespace Store

/-- What the files hold and the connections see is related to what it was. -/
structure Relates (R : Nat → Tables → Tables → Prop) (s s' : Store) : Prop where
  committed : ∀ file, R file (s.committed file) (s'.committed file)
  visible : ∀ n c, s.connection? n = some c → ∃ c', s'.connection? n = some c' ∧
    c'.file = c.file ∧ R c.file (s.visible c) (s'.visible c')

/-- All tables are as they were. -/
def SameTables : Store → Store → Prop := Relates fun _ ts ts' => ts' = ts

/-- All tables are as they were, but for those of the name in one file. -/
def ChangesTable (file : Nat) (name : String) : Store → Store → Prop :=
  Relates fun place ts ts' => if place = file then ts.AgreeApart name ts' else ts' = ts

variable {R : Nat → Tables → Tables → Prop} {s s' s₁ : Store} {n : Nat} {c c' : Connection}

theorem SameTables.refl (s : Store) : s.SameTables s where
  committed _ := rfl
  visible _ c conn := ⟨c, conn, rfl, rfl⟩

theorem SameTables.relates (same : s.SameTables s₁) (relates : Relates R s₁ s') :
    Relates R s s' where
  committed file := by
    rw [← same.committed file]
    exact relates.committed file
  visible n c conn := by
    obtain ⟨d, conn', file, sees⟩ := same.visible n c conn
    obtain ⟨c', conn'', file', related⟩ := relates.visible n d conn'
    rw [file, sees] at related
    exact ⟨c', conn'', file'.trans file, related⟩

theorem relates_put (refl : ∀ file ts, R file ts ts) (conn : s.connection? n = some c)
    (file : c'.file = c.file) (sees : R c.file (s.visible c) (s.visible c')) :
    Relates R s (s.putConnection n c') where
  committed _ := refl _ _
  visible m d found := by
    by_cases here : m = n
    · subst here
      cases Option.some.inj (conn.symm.trans found)
      exact ⟨c', connection?_putConnection_self conn c', file, sees⟩
    · exact ⟨d, (connection?_putConnection_other here c').trans found, rfl, refl _ _⟩

theorem sameTables_put (conn : s.connection? n = some c) (file : c'.file = c.file)
    (sees : s.visible c' = s.visible c) : s.SameTables (s.putConnection n c') :=
  relates_put (fun _ _ => rfl) conn file sees

/-- What is committed becomes what each connection to the file sees that works on nothing. -/
theorem relates_settle (refl : ∀ file ts, R file ts ts) (conn : s.connection? n = some c)
    (inside : c.file < s.files.length) {ts : Tables} (changed : R c.file (s.committed c.file) ts)
    (unworked : c.work = none) (file : c'.file = c.file) (work : c'.work = none) :
    Relates R s ((s.putTables c.file ts).putConnection n c') := by
  have committed (place : Nat) :
      R place (s.committed place) ((s.putTables c.file ts).committed place) := by
    by_cases here : place = c.file
    · subst here
      rwa [committed_putTables inside]
    · have same : (s.putTables c.file ts).committed place = s.committed place := by
        simp [Store.committed, putTables, Ne.symm here]
      rw [same]
      exact refl _ _
  have conn' : (s.putTables c.file ts).connection? n = some c := conn
  refine ⟨committed, fun m d found => ?_⟩
  by_cases here : m = n
  · subst here
    cases Option.some.inj (conn.symm.trans found)
    refine ⟨c', connection?_putConnection_self conn' c', file, ?_⟩
    rw [visible_putConnection, visible, visible, unworked, work, file]
    exact committed _
  · refine ⟨d, (connection?_putConnection_other here c').trans found, rfl, ?_⟩
    rw [visible_putConnection, visible, visible]
    cases d.work with
    | none => exact committed _
    | some us => exact refl _ _

/-- The transaction of a connection is given up. What is committed and what the other connections
have is as it was, and the connection sees again what is committed. -/
structure LosesWork (s : Store) (n : Nat) (c : Connection) (s' : Store) : Prop where
  unreliable : c.medium ≠ .reliable
  inside : c.inTransaction = true
  committed : ∀ file, s'.committed file = s.committed file
  others : ∀ m, m ≠ n → s'.connection? m = s.connection? m
  own : ∃ c', s'.connection? n = some c' ∧ c'.file = c.file ∧ c'.inTransaction = false ∧
    s'.visible c' = s.committed c.file

theorem LosesWork.of_put {d : Connection}
    (loses : (s.putConnection n d).LosesWork n d s') (file : d.file = c.file)
    (inside : d.inTransaction = c.inTransaction) (medium : d.medium = c.medium) :
    s.LosesWork n c s' where
  unreliable := medium ▸ loses.unreliable
  inside := inside ▸ loses.inside
  committed := loses.committed
  others m other := (loses.others m other).trans (connection?_putConnection_other other d)
  own := by
    obtain ⟨c', conn', same, outside, sees⟩ := loses.own
    rw [file] at same sees
    exact ⟨c', conn', same, outside, sees⟩

section

variable {w : Work} {count : Nat} {e : MediumError}

theorem sameTables_counted (conn : s.connection? n = some c) (count : Nat) :
    s.SameTables (s.putConnection n { c with changes := count }) :=
  sameTables_put conn rfl rfl

theorem sameTables_undo (conn : s.connection? n = some c) (cause : Failure) :
    s.SameTables (s.undo n c cause).2 := by
  dsimp only [undo]
  refine sameTables_put conn ?_ ?_
  · split
    · exact c.locked_file _
    · exact c.locked_file _
  · split
    · rfl
    · exact visible_eq s (c.locked_file _) (c.locked_work _)

/-- A medium that takes the transaction with it gives up the work of the connection, if there is
any. -/
theorem setBack_cases (conn : s.connection? n = some c) (unreliable : c.medium ≠ .reliable) :
    s.SameTables (s.setBack n c e).2 ∨ s.LosesWork n c (s.setBack n c e).2 := by
  dsimp only [setBack]
  split
  · rename_i inside
    refine .inr ⟨unreliable, inside, fun _ => rfl,
      fun m other => connection?_putConnection_other other _, _,
      connection?_putConnection_self conn _, rfl, rfl, rfl⟩
  · exact .inl (sameTables_counted conn 0)

/-- A change that the medium has taken is kept, or it fails and changes nothing. -/
theorem complete_cases (conn : s.connection? n = some c) (settled : c.IsSettled)
    (inside : c.file < s.files.length) (w : Work) (count : Nat) :
    (∃ f s', s.complete n c w count = (.error f, s') ∧ s.SameTables s') ∨
    ∃ c' s', s.complete n c w count = (.ok (.done count), s') ∧ s'.connection? n = some c' ∧
      c'.file = c.file ∧ s'.visible c' = w.tables ∧
      ∀ R, (∀ file ts, R file ts ts) → R c.file (s.visible c) w.tables → Relates R s s' := by
  unfold complete
  split
  · refine .inr ⟨_, _, rfl, connection?_putConnection_self conn _, c.locked_file _, rfl,
      fun R refl related => ?_⟩
    exact relates_put refl conn (c.locked_file _) related
  rename_i outside
  have unworked := (settled (Bool.eq_false_iff.mpr outside)).1
  split
  · exact .inl ⟨_, _, rfl, sameTables_counted conn 0⟩
  split
  · exact .inl ⟨_, _, rfl, sameTables_counted conn 0⟩
  split
  · dsimp only [setBack]
    rw [if_neg outside]
    exact .inl ⟨_, _, rfl, sameTables_counted conn 0⟩
  · refine .inr ⟨{ c with changes := count }, _, rfl, ?_, rfl, ?_, fun R refl related => ?_⟩
    · exact connection?_putConnection_self (s := s.putTables c.file w.tables) conn _
    · rw [visible_putConnection, visible, unworked]
      exact committed_putTables inside w.tables
    · rw [visible, unworked] at related
      exact relates_settle refl conn inside related unworked rfl unworked

/-- A change is made and seen by its connection, or it fails and changes nothing, or the medium
takes the transaction with it. -/
theorem write_cases (conn : s.connection? n = some c) (settled : c.IsSettled)
    (inside : c.file < s.files.length) (journaled : Bool)
    (change : Work → Except Failure (Work × Nat)) :
    (∃ f s', s.write n c journaled change = (.error f, s') ∧
      (s.SameTables s' ∨ f.IsOfMedium ∧ s.LosesWork n c s')) ∨
    ∃ w count c' s', change ⟨s.visible c, c.openReferences⟩ = .ok (w, count) ∧
      s.write n c journaled change = (.ok (.done count), s') ∧ s'.connection? n = some c' ∧
      c'.file = c.file ∧ s'.visible c' = w.tables ∧
      ∀ R, (∀ file ts, R file ts ts) → R c.file (s.visible c) w.tables → Relates R s s' := by
  unfold write
  split
  · exact .inl ⟨_, _, rfl, .inl (sameTables_counted conn 0)⟩
  split
  · rename_i f _
    exact .inl ⟨f, _, rfl, .inl (sameTables_undo conn f)⟩
  rename_i w count ran
  split
  · rename_i e refuses
    have unreliable : c.medium ≠ .reliable := by
      intro reliable
      rw [reliable, Medium.onWrite_reliable] at refuses
      cases refuses
    split
    · exact .inl ⟨.medium e, _, rfl, .inl (sameTables_undo conn (.medium e))⟩
    · have ended := setBack_cases (e := e) conn unreliable
      exact .inl ⟨.medium e, _, rfl, ended.imp_right (⟨trivial, ·⟩)⟩
  · rcases complete_cases conn settled inside w count with
      ⟨f, s', done, same⟩ | ⟨c', s', done, conn', file, sees, relates⟩
    · exact .inl ⟨f, s', done, .inl same⟩
    · exact .inr ⟨w, count, c', s', ran, done, conn', file, sees, relates⟩

end

/-- How a change ends. It fails and all tables are as they were, or, if the medium has failed, the
transaction is given up; or it makes something of the table that its connection sees under the
name, and leaves the others. -/
inductive Writes {ε : Type} (ofMedium : ε → Prop) (s : Store) (connection : Option Nat)
    (name : String) (Becomes : Table → Table → Nat → Prop) : Except ε Nat × Store → Prop
  | failed {e : ε} {s' : Store} : s.SameTables s' →
      Writes ofMedium s connection name Becomes (.error e, s')
  | lost {e : ε} {n : Nat} {c : Connection} {s' : Store} : ofMedium e → connection = some n →
      s.connection? n = some c → s.LosesWork n c s' →
      Writes ofMedium s connection name Becomes (.error e, s')
  | done {n count : Nat} {c c' : Connection} {t t' : Table} {s' : Store} :
      connection = some n → s.connection? n = some c → s'.connection? n = some c' →
      c'.file = c.file → (s.visible c).table? name = some t →
      (s'.visible c').table? name = some t' → s.ChangesTable c.file name s' →
      Becomes t t' count → Writes ofMedium s connection name Becomes (.ok count, s')

theorem Writes.mapError {ε ε' : Type} {ofMedium : ε → Prop} {ofMedium' : ε' → Prop}
    {connection : Option Nat} {name : String} {Becomes : Table → Table → Nat → Prop}
    {outcome : Except ε Nat × Store} (writes : Writes ofMedium s connection name Becomes outcome)
    {f : ε → ε'} (medium : ∀ e, ofMedium e → ofMedium' (f e)) :
    Writes ofMedium' s connection name Becomes (outcome.1.mapError f, outcome.2) := by
  cases writes with
  | failed same => exact .failed same
  | lost cause opened conn loses => exact .lost (medium _ cause) opened conn loses
  | done opened conn conn' file found found' changes becomes =>
    exact .done opened conn conn' file found found' changes becomes

/-- What a command makes of the table of the name, wherever it is run. -/
structure Commands (sql : String) (command : Command) (parameters : List Value) (name : String)
    (Becomes : Table → Table → Nat → Prop) : Prop where
  table : command.table? = some name
  step : ∀ (s : Store) (n : Nat) (c : Connection) (t : Table),
    (s.visible c).table? name = some t → t.IsKeyed → command.checkNames sql t.layout = .ok () →
      ∃ journaled change, s.step n c command parameters = s.write n c journaled change ∧
        ∀ balance w count, change ⟨s.visible c, balance⟩ = .ok (w, count) →
          (s.visible c).AgreeApart name w.tables ∧
          ∃ t', w.tables.table? name = some t' ∧ Becomes t t' count

theorem checkNames_of_vet {sql name : String} {command : Command} {t : Table} {given : Nat}
    (read : Command.read (scan sql) = .ok command) (table : command.table? = some name)
    (found : (s.visible c).table? name = some t) {v : Vetted}
    (vetted : s.vet c sql given = .ok v) : command.checkNames sql t.layout = .ok () := by
  simp only [vet, read, table, found] at vetted
  obtain ⟨_, names, _⟩ := bind_eq_ok vetted
  exact names

/-- A text that is read as such a command, if it is read, ends like it. -/
theorem writes_execute (orderly : s.IsOrderly) {sql name : String} {parameters : List Value}
    {Becomes : Table → Table → Nat → Prop} (about : IsChange sql)
    (commands : ∀ command, Command.read (scan sql) = .ok command →
      Commands sql command parameters name Becomes) (n : Nat) :
    Writes StoreError.IsOfMedium s (some n) name Becomes (s.execute n sql parameters) := by
  cases conn : s.connection? n with
  | none =>
    have ran : s.execute n sql parameters = (.error (.failed .nothingToRun), s) := by
      simp [execute, run, conn]
    rw [ran]
    exact .failed (.refl s)
  | some c =>
    rcases run_cases about.isAboutRows conn parameters with
      ⟨e, knows, ran, _⟩ | ⟨command, name', t, read, table, found, vetted, ran⟩
    · rw [execute, ran]
      exact .failed (sameTables_put conn rfl rfl)
    · obtain ⟨named, step⟩ := commands command read
      cases Option.some.inj (table.symm.trans named)
      let known : Connection := { c with knowsTables := true }
      have same : s.SameTables (s.putConnection n known) := sameTables_put conn rfl rfl
      have mem := mem_of_connection? conn
      have keyed := orderly.keyed.visible invariant_isOrderly.nothing conn t
        (Tables.mem_of_table? found)
      obtain ⟨journaled, change, stepped, makes⟩ := step (s.putConnection n known) n known t found
        keyed (checkNames_of_vet read table found vetted)
      have inside : c.file < s.files.length := (orderly.numbered (n, c) mem).2
      rw [execute, ran, stepped]
      rcases write_cases (c := known) (connection?_putConnection_self conn known)
          (orderly.settled (n, c) mem) inside journaled change with
        ⟨f, s', wrote, left | ⟨cause, loses⟩⟩ |
        ⟨w, count, c', s', changed, wrote, conn', file, sees, relates⟩
      · rw [wrote]
        exact .failed (same.relates left)
      · rw [wrote]
        exact .lost (e := StoreError.failed f) cause rfl conn (loses.of_put rfl rfl rfl)
      · obtain ⟨agree, t', found', becomes⟩ := makes _ w count changed
        rw [wrote]
        refine .done rfl conn conn' file found (sees ▸ found') (same.relates (relates _ ?_ ?_))
          becomes
        · intro place ts
          split
          · exact .refl name ts
          · rfl
        · exact (if_pos rfl).mpr agree

/-! ## Commands -/

section

variable {d : Descriptor} {decl : Declaration} {mode : FilterMode} {p : Predicate} {f : Filter}
  {values : List Value} {sql name : String}

theorem commands_insert (name : String) (columns : List ColumnName) (operands : List Operand) :
    Commands sql (.insert name columns operands) values name fun t t' count =>
      count = 1 ∧ t'.layout = t.layout ∧ ∃ r, t'.rows.Perm (r :: t.rows) where
  table := rfl
  step s n c t found _ _ := by
    refine ⟨_, _, by simp only [Store.step, found]; rfl, fun balance w count ran => ?_⟩
    obtain ⟨w₁, inserted, done⟩ := bind_eq_ok ran
    cases Except.ok.inj done
    obtain ⟨r, put, _⟩ := Work.runInsert_ok inserted
    rw [put]
    exact ⟨Tables.agreeApart_put found rfl, t.insert r, Tables.table?_put found rfl, rfl, rfl, r,
      Table.insertSorted_perm r t.rows⟩

theorem commands_delete (compiled : Filter.ofPredicate d.columns mode p = .ok f) {k : Condition}
    (mirrors : k.Mirrors d.columns mode values p.leftNested) (name : String) :
    Commands sql (.delete name (some k)) values name fun t t' count =>
      ∃ found, p.Finds mode d.columns t found ∧ count = found.length ∧
        t' = { t with rows := t.rows.filter fun r => r ∉ found } where
  table := rfl
  step s n c t found keyed _ := by
    refine ⟨_, _, by simp only [Store.step, found]; rfl, fun balance w count ran => ?_⟩
    cases ran
    have finds := mirrors.finds compiled keyed false
    obtain ⟨found', agree⟩ := Work.runDelete_ok (w := ⟨s.visible c, balance⟩) c.enforced
      (Tables.table?_self found)
    have same : Schema.sameName t.layout.name name = true := by simpa using List.find?_some found
    rw [keyed.filter_not_mem finds.rows, Tables.table?_congr same] at found'
    exact ⟨agree.congr same, _, found', _, finds, rfl, rfl⟩

/-- Where the names of an UPDATE are known, its columns are in the table. -/
theorem placed_of_checkNames {as : List (ColumnName × Operand)} {filter : Option Condition}
    {t : TableLayout} (columns : assigned as = parametersFrom 0 d.columnNames)
    (names : Command.checkNames sql t (.update name as filter) = .ok ()) :
    ∀ column ∈ d.columns, (t.place? column.name).isSome = true := by
  intro column mem
  have named : column.name ∈ as.map fun a => a.1.name := by
    rw [names_of_assigned columns]
    exact List.mem_map_of_mem mem
  obtain ⟨a, ha, same⟩ := List.mem_map.mp named
  have placed := Command.placed_of_checkNames names
  exact same ▸ placed a.1 (List.mem_append_left _ (List.mem_map_of_mem ha))

theorem commands_update (accepted : d.IsOf decl)
    (compiled : Filter.ofPredicate d.columns mode p = .ok f) {k : Condition} {rest : List Value}
    (mirrors : k.Mirrors d.columns mode (values ++ rest) p.leftNested)
    {as : List (ColumnName × Operand)} (columns : assigned as = parametersFrom 0 d.columnNames)
    (arity : values.length = d.columns.length) (name : String) :
    Commands sql (.update name as (some k)) (values ++ rest) name fun t t' count =>
      ∃ found, p.Finds mode d.columns t found ∧ count = found.length ∧
        t.IsRewritten d.columns values found t' where
  table := rfl
  step s n c t found keyed names := by
    refine ⟨_, _, by simp only [Store.step, found]; rfl, fun balance w count ran => ?_⟩
    obtain ⟨w₁, updated, done⟩ := bind_eq_ok ran
    cases Except.ok.inj done
    have finds := mirrors.finds compiled keyed false
    have same : Schema.sameName t.layout.name name = true := by simpa using List.find?_some found
    have keys : ((t.selected false ((values ++ rest).map Value.received) (some k)).map
        Row.key).Nodup := Table.selected_keys_nodup keyed false k
    obtain ⟨t', found', agree, layout, each, perm⟩ :=
      Work.runUpdate_ok updated (Tables.table?_self found) keyed finds.rows keys
    rw [Tables.table?_congr same] at found'
    have assigns := AssignsTo.of_assigned columns arity rest
    have placed := placed_of_checkNames columns names
    exact ⟨agree.congr same, t', found', _, finds, rfl, Table.isRewritten_of_perm arity assigns
      accepted.apart placed keyed finds.rows finds.distinct layout each perm⟩

end

end Store

end RecordStore
