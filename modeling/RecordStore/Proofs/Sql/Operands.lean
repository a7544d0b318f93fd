import RecordStore.Proofs.Sql.FirstWord
import RecordStore.Proofs.Sql.SelectText

/-!
Operands of statements. Each is a token of the text, so a statement refers to no parameter beyond
those that its text asks for.
-/
namespace RecordStore.Sql

def Condition.operands : Condition → List Operand
  | .test (.compare _ _ v) => [v]
  | .test _ => []
  | .and l r | .or l r => l.operands ++ r.operands

def Command.operands : Command → List Operand
  | .select _ _ filter | .delete _ filter => filter.elim [] Condition.operands
  | .insert _ _ values => values
  | .update _ assignments filter =>
    assignments.map Prod.snd ++ filter.elim [] Condition.operands
  | _ => []

/-- The operands stand among the tokens. -/
def Stand (tokens : List Lexeme) (operands : List Operand) : Prop :=
  ∀ v ∈ operands, ∃ l ∈ tokens, IsOperand l v

namespace Stand

variable {ls ms : List Lexeme} {vs ws : List Operand}

theorem nil (ls : List Lexeme) : Stand ls [] := nofun

theorem mono (stand : Stand ls vs) (sub : ls ⊆ ms) : Stand ms vs := by
  intro v mem
  obtain ⟨l, hl, operand⟩ := stand v mem
  exact ⟨l, sub hl, operand⟩

theorem append (first : Stand ls vs) (second : Stand ls ws) : Stand ls (vs ++ ws) :=
  List.forall_mem_append.mpr ⟨first, second⟩

end Stand

theorem IsTest.stand {ls : List Lexeme} {t : Test} (test : IsTest ls t) :
    Stand ls (Condition.test t).operands := by
  cases test with
  | compare _ _ value => exact List.forall_mem_singleton.mpr ⟨_, by simp, value⟩
  | isNull | isNotNull => exact .nil _

mutual

theorem IsCondition.stand {ls : List Lexeme} {c : Condition} :
    IsCondition ls c → Stand ls c.operands
  | .conjunction tree => tree.stand
  | .or left _ right =>
    (left.stand.mono (List.subset_append_left ..)).append
      (right.stand.mono fun _ mem => List.mem_append_right _ (List.mem_cons_of_mem _ mem))

theorem IsConjunction.stand {ls : List Lexeme} {c : Condition} :
    IsConjunction ls c → Stand ls c.operands
  | .primary tree => tree.stand
  | .and left _ right =>
    (left.stand.mono (List.subset_append_left ..)).append
      (right.stand.mono fun _ mem => List.mem_append_right _ (List.mem_cons_of_mem _ mem))

theorem IsPrimary.stand {ls : List Lexeme} {c : Condition} :
    IsPrimary ls c → Stand ls c.operands
  | .test test => test.stand
  | .parentheses _ _ tree _ =>
    tree.stand.mono fun _ mem => List.mem_cons_of_mem _ (List.mem_append_left _ mem)

end

/-! ## Readers -/

/-- What is read stands in front of what is left, and its operands are tokens of it. -/
def Draws {α : Type} (operands : α → List Operand) (tokens : List Lexeme)
    (read : Except SyntaxError (α × List Lexeme)) : Prop :=
  ∀ a rest, read = .ok (a, rest) → rest <:+ tokens ∧ Stand tokens (operands a)

variable {α : Type} {operands : α → List Operand} {ls rest : List Lexeme} {command : Command}

theorem suffix_of_readKeyword {keyword : String} (read : readKeyword keyword ls = .ok rest) :
    rest <:+ ls := by
  obtain ⟨l, rfl, _⟩ := isKeyword_of_readKeyword read
  exact List.suffix_cons l rest

theorem suffix_of_readToken {token : Token} (read : readToken token ls = .ok rest) :
    rest <:+ ls := by
  obtain ⟨l, rfl, _⟩ := isToken_of_readToken read
  exact List.suffix_cons l rest

theorem draws_readName (ls : List Lexeme) : Draws (fun _ => []) ls (readName ls) := by
  intro column rest read
  obtain ⟨l, rfl, _⟩ := isName_of_readName read
  exact ⟨List.suffix_cons l rest, .nil _⟩

theorem draws_readColumn (ls : List Lexeme) : Draws (fun _ => []) ls (readColumn ls) := by
  intro column rest read
  obtain ⟨l, rfl, _⟩ := isColumn_of_readColumn read
  exact ⟨List.suffix_cons l rest, .nil _⟩

theorem draws_readOperand (ls : List Lexeme) : Draws (fun v => [v]) ls (readOperand ls) := by
  intro v rest read
  obtain ⟨l, rfl, operand⟩ := isOperand_of_readOperand read
  exact ⟨List.suffix_cons l rest,
    List.forall_mem_singleton.mpr ⟨l, List.mem_cons_self .., operand⟩⟩

theorem draws_readAssignment (ls : List Lexeme) :
    Draws (fun a => [a.2]) ls (readAssignment ls) := by
  intro a rest read
  obtain ⟨⟨column, after⟩, name, read⟩ := bind_eq_ok read
  obtain ⟨behind, equals, read⟩ := bind_eq_ok read
  obtain ⟨⟨v, left⟩, value, done⟩ := bind_eq_ok read
  cases done
  have before := (suffix_of_readToken equals).trans (draws_readName ls column after name).1
  obtain ⟨suffix, stand⟩ := draws_readOperand behind v rest value
  exact ⟨suffix.trans before, stand.mono before.subset⟩

theorem draws_readList {item : List Lexeme → Except SyntaxError (α × List Lexeme)}
    (each : ∀ ls, Draws operands ls (item ls)) (fuel : Nat) (ls : List Lexeme) :
    Draws (fun as => as.flatMap operands) ls (readList item fuel ls) := by
  induction fuel generalizing ls with
  | zero => nofun
  | succ fuel ih =>
    intro as rest read
    obtain ⟨⟨first, after⟩, head, read⟩ := bind_eq_ok read
    obtain ⟨suffix, stand⟩ := each ls first after head
    dsimp only at read
    split at read
    · rename_i l behind
      split at read
      · obtain ⟨⟨others, left⟩, tail, done⟩ := bind_eq_ok read
        cases done
        have before := (List.suffix_cons l behind).trans suffix
        obtain ⟨suffix', stand'⟩ := ih behind others left tail
        exact ⟨suffix'.trans before, stand.append (stand'.mono before.subset)⟩
      · cases read
        exact ⟨suffix, stand.append (.nil ls)⟩
    · cases read
      exact ⟨suffix, stand.append (.nil ls)⟩

theorem draws_readFilter (ls : List Lexeme) :
    Draws (fun filter => filter.elim [] Condition.operands) ls (readFilter ls) := by
  intro filter rest read
  cases ls with
  | nil =>
    cases read
    exact ⟨List.suffix_refl [], .nil []⟩
  | cons l ls =>
    rw [readFilter] at read
    split at read
    · obtain ⟨⟨c, after⟩, condition, read⟩ := bind_eq_ok read
      dsimp only at read
      split at read
      · cases read
      · cases read
        obtain ⟨taken, rfl, tree⟩ := isCondition_of_readCondition _ condition
        have before := List.suffix_cons l (taken ++ rest)
        exact ⟨(List.suffix_append taken rest).trans before,
          (tree.stand.mono (List.subset_append_left ..)).mono before.subset⟩
    · cases read
      exact ⟨List.suffix_refl _, .nil _⟩

theorem stand_of_readSource {columns : Option (List ColumnName)}
    (read : readSource columns ls = .ok command) : Stand ls command.operands := by
  obtain ⟨after, «from», read⟩ := bind_eq_ok read
  obtain ⟨⟨table, behind⟩, name, read⟩ := bind_eq_ok read
  obtain ⟨⟨filter, left⟩, condition, read⟩ := bind_eq_ok read
  cases finish_ok read
  have before := (draws_readName after table behind name).1.trans (suffix_of_readKeyword «from»)
  exact (draws_readFilter behind filter left condition).2.mono before.subset

theorem stand_of_readSelect (read : readSelect ls = .ok command) : Stand ls command.operands := by
  unfold readSelect at read
  split at read
  · rename_i l after
    split at read
    · exact (stand_of_readSource read).mono (List.subset_cons_self l after)
    · obtain ⟨⟨names, behind⟩, columns, read⟩ := bind_eq_ok read
      have before := (draws_readList draws_readColumn _ _ names behind columns).1
      exact (stand_of_readSource read).mono before.subset
  · cases read

theorem stand_of_readInsert (read : readInsert ls = .ok command) : Stand ls command.operands := by
  obtain ⟨behind₁, into, read⟩ := bind_eq_ok read
  obtain ⟨⟨table, behind₂⟩, name, read⟩ := bind_eq_ok read
  obtain ⟨behind₃, opens, read⟩ := bind_eq_ok read
  obtain ⟨⟨columns, behind₄⟩, names, read⟩ := bind_eq_ok read
  obtain ⟨behind₅, closes, read⟩ := bind_eq_ok read
  obtain ⟨behind₆, keyword, read⟩ := bind_eq_ok read
  obtain ⟨behind₇, opens', read⟩ := bind_eq_ok read
  obtain ⟨⟨values, behind₈⟩, given, read⟩ := bind_eq_ok read
  obtain ⟨behind₉, _, read⟩ := bind_eq_ok read
  cases finish_ok read
  have head := (draws_readName _ table _ name).1.trans (suffix_of_readKeyword into)
  have listed := (draws_readList draws_readName _ _ columns _ names).1.trans
    ((suffix_of_readToken opens).trans head)
  have before := (suffix_of_readToken opens').trans ((suffix_of_readKeyword keyword).trans
    ((suffix_of_readToken closes).trans listed))
  have stand : Stand ls (values.flatMap fun v => [v]) :=
    (draws_readList draws_readOperand _ _ values _ given).2.mono before.subset
  rw [List.flatMap_singleton'] at stand
  exact stand

theorem stand_of_readUpdate (read : readUpdate ls = .ok command) : Stand ls command.operands := by
  obtain ⟨⟨table, behind₁⟩, name, read⟩ := bind_eq_ok read
  obtain ⟨behind₂, set, read⟩ := bind_eq_ok read
  obtain ⟨⟨assignments, behind₃⟩, given, read⟩ := bind_eq_ok read
  obtain ⟨⟨filter, behind₄⟩, condition, read⟩ := bind_eq_ok read
  cases finish_ok read
  have head := (suffix_of_readKeyword set).trans (draws_readName _ table _ name).1
  obtain ⟨suffix, stand⟩ := draws_readList draws_readAssignment _ _ assignments _ given
  simp only [← List.map_eq_flatMap] at stand
  have stand' := (draws_readFilter behind₃ filter _ condition).2
  exact (stand.mono head.subset).append (stand'.mono (suffix.trans head).subset)

theorem stand_of_readDelete (read : readDelete ls = .ok command) : Stand ls command.operands := by
  obtain ⟨after, «from», read⟩ := bind_eq_ok read
  obtain ⟨⟨table, behind⟩, name, read⟩ := bind_eq_ok read
  obtain ⟨⟨filter, left⟩, condition, read⟩ := bind_eq_ok read
  cases finish_ok read
  have before := (draws_readName after table behind name).1.trans (suffix_of_readKeyword «from»)
  exact (draws_readFilter behind filter left condition).2.mono before.subset

theorem stand_of_finishTransaction {c : Command} {tokens : List Lexeme} (silent : c.operands = [])
    (read : finishTransaction c tokens = .ok command) : Stand ls command.operands := by
  rw [finishTransaction_ok read, silent]
  exact .nil ls

theorem stand_of_readBegin (read : readBegin ls = .ok command) : Stand ls command.operands := by
  unfold readBegin at read
  split at read
  · exact stand_of_finishTransaction rfl read
  · split at read
    · exact stand_of_finishTransaction rfl read
    split at read
    · exact stand_of_finishTransaction rfl read
    split at read
    · exact stand_of_finishTransaction rfl read
    · exact stand_of_finishTransaction rfl read

theorem stand_of_readPragma (read : readPragma ls = .ok command) : Stand ls command.operands := by
  obtain ⟨_, _, read⟩ := bind_eq_ok read
  obtain ⟨_, _, read⟩ := bind_eq_ok read
  obtain ⟨⟨pages, _⟩, _, read⟩ := bind_eq_ok read
  cases finish_ok read
  exact .nil ls

theorem stand_of_ofTokens (read : Command.ofTokens ls = .ok command) :
    Stand ls command.operands := by
  unfold Command.ofTokens at read
  split at read
  · cases read
    exact .nil _
  · rename_i l after
    have behind := List.subset_cons_self l after
    split at read
    · exact (stand_of_readSelect read).mono behind
    split at read
    · exact (stand_of_readInsert read).mono behind
    split at read
    · exact (stand_of_readUpdate read).mono behind
    split at read
    · exact (stand_of_readDelete read).mono behind
    split at read
    · exact (stand_of_readBegin read).mono behind
    split at read
    · exact stand_of_finishTransaction rfl read
    split at read
    · exact stand_of_finishTransaction rfl read
    split at read
    · exact stand_of_finishTransaction rfl read
    split at read
    · exact (stand_of_readPragma read).mono behind
    · cases read

/-- Every operand of a command is a token of its text. -/
theorem stand_of_read (read : Command.read ls = .ok command) : Stand ls command.operands := by
  obtain ⟨c, tokens, read⟩ := bind_eq_ok read
  split at read
  · cases read
  · cases read
    exact stand_of_ofTokens tokens

/-- A statement that is given as many parameters as its text asks for has a parameter for each
of its placeholders. -/
theorem place_lt_of_read {sql : String} (read : Command.read (scan sql) = .ok command)
    {place : Nat} (mem : .parameter place ∈ command.operands) :
    place < (parameterMarkers (scan sql)).length := by
  obtain ⟨l, hl, operand⟩ := stand_of_read read _ mem
  have spelled : (scan sql).map Lexeme.token = numbered [] _ := token_numberFrom [] _
  rw [parameterMarkers_of_tokens spelled]
  cases operand with
  | @parameter m _ token =>
    apply place_lt_of_numbered (m := m)
    rw [← spelled, ← token]
    exact List.mem_map_of_mem hl

end RecordStore.Sql
