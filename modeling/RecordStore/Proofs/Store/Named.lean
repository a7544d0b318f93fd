import RecordStore.Proofs.Store.Emptied
import RecordStore.Proofs.Store.Invariants

/-!
Tables whose names differ. What is done to the rows of one leaves the layouts of all as they are,
so a store without its rows does not show it.
-/
namespace RecordStore

open Sql

/-- No two tables share a name. -/
def Tables.AreNamed (ts : Tables) : Prop := (ts.map fun t => t.layout.name).Nodup

namespace Tables

variable {ts ts' : Tables} {name : String} {t t' : Table}

theorem AreNamed.emptied_put (named : ts.AreNamed) (mem : t ∈ ts) (same : t'.layout = t.layout) :
    (ts.put t').emptied = ts.emptied := by
  rw [put, emptied, emptied, List.map_map]
  refine List.map_congr_left fun u hu => ?_
  dsimp only [Function.comp, Table.emptied]
  split
  · rename_i equal
    rw [same] at equal
    rw [List.inj_on_of_nodup_map named hu mem equal, same]
  · rfl

theorem areNamed_emptied : ts.emptied.AreNamed ↔ ts.AreNamed := by
  rw [AreNamed, AreNamed, emptied, List.map_map]
  rfl

theorem AreNamed.of_emptied (named : ts.AreNamed) (same : ts'.emptied = ts.emptied) :
    ts'.AreNamed := by
  rw [← areNamed_emptied, same]
  exact areNamed_emptied.mpr named

theorem table?_of_emptied (same : ts'.emptied = ts.emptied) (found : ts.table? name = some t) :
    ∃ t', ts'.table? name = some t' ∧ t'.layout = t.layout := by
  have emptied : (ts'.table? name).map Table.emptied = some t.emptied := by
    rw [← table?_emptied, same, table?_emptied, found]
    rfl
  obtain ⟨t', found', equal⟩ := Option.map_eq_some_iff.mp emptied
  have layout : t'.emptied.layout = t.emptied.layout := by rw [equal]
  exact ⟨t', found', layout⟩

theorem areNamed_nil : AreNamed [] := List.nodup_nil

theorem lasts_areNamed : Lasts AreNamed :=
  fun _ _ _ named mem same _ _ => named.of_emptied (named.emptied_put mem same)

end Tables

namespace Store

variable {s s' : Store} {id : Nat} {c : Connection}

/-- In each file, and in what is worked on, no two tables share a name. -/
def IsNamed (s : Store) : Prop := s.Holds Tables.AreNamed

theorem invariant_isNamed : Invariant Tables.AreNamed IsNamed :=
  invariant_holds Tables.areNamed_nil Tables.lasts_areNamed

theorem IsNamed.visible (named : s.IsNamed) (conn : s.connection? id = some c) :
    (s.visible c).AreNamed :=
  Holds.visible named Tables.areNamed_nil conn

theorem IsNamed.of_emptied (named : s.IsNamed) (same : s.emptied = s'.emptied) : s'.IsNamed := by
  constructor
  · intro f mem
    have there : f.emptied ∈ s.emptied.files := by
      rw [same]
      exact List.mem_map_of_mem mem
    obtain ⟨f₀, mem₀, equal⟩ := List.mem_map.mp there
    exact (named.files f₀ mem₀).of_emptied (congrArg DatabaseFile.tables equal).symm
  · intro e mem ts work
    have there : (e.1, e.2.emptied) ∈ s.emptied.connections := by
      rw [same]
      exact List.mem_map_of_mem mem
    obtain ⟨e₀, mem₀, equal⟩ := List.mem_map.mp there
    have works : e₀.2.work.map Tables.emptied = some ts.emptied := by
      rw [← Connection.emptied_work, (Prod.mk.inj equal).2, Connection.emptied_work, work]
      rfl
    obtain ⟨ts₀, work₀, tables⟩ := Option.map_eq_some_iff.mp works
    exact (named.works e₀ mem₀ ts₀ work₀).of_emptied tables.symm

end Store

end RecordStore
