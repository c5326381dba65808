import TableStore.Proofs.Server.Interruption

/-!
# What a dialogue concludes

A run pairs every statement with the reply to it. What a dialogue concludes is a relation between
the answers that it got and the value that it gives: it holds whichever answers come, so it holds
of every run that gives a value, whatever the server is.

This is kept when dialogues follow one another, the second going on with the answers of the first.
-/

namespace TableStore.Server

open Sql

/-- A statement with the reply to it. -/
abbrev Exchange := Statement × Reply

/-- Whether a query of the catalog was answered with yes. -/
def IsAffirmed (query : CatalogQuery) (exchanges : List Exchange) : Prop :=
  ∃ answer : Answer, (.catalog query, .answer answer) ∈ exchanges ∧ answer.truth? = some true

theorem not_isAffirmed_nil (query : CatalogQuery) : ¬IsAffirmed query [] := by
  rintro ⟨answer, member, -⟩
  cases member

/-- One more exchange affirms a query when it is about the query and the answer is yes. -/
theorem isAffirmed_append {query : CatalogQuery} {exchanges : List Exchange}
    {statement : Statement} {answer : Answer} :
    IsAffirmed query (exchanges ++ [(statement, .answer answer)]) ↔
      IsAffirmed query exchanges ∨
        statement = .catalog query ∧ answer.truth? = some true := by
  constructor
  · rintro ⟨given, member, affirms⟩
    rcases List.mem_append.mp member with earlier | last
    · exact .inl ⟨given, earlier, affirms⟩
    · cases List.mem_singleton.mp last
      exact .inr ⟨rfl, affirms⟩
  · rintro (⟨given, earlier, affirms⟩ | ⟨rfl, affirms⟩)
    · exact ⟨given, List.mem_append_left _ earlier, affirms⟩
    · exact ⟨answer, List.mem_append_right _ List.mem_cons_self, affirms⟩

namespace Dialogue

variable {State α β : Type} {server : Backend State} {faults : Faults} {past : List Exchange}

/-- The statements that a dialogue sends, each with the reply to it. -/
def exchanges (server : Backend State) (faults : Faults) (dialogue : Dialogue α) (state : State) :
    List Exchange :=
  (dialogue.run server faults state).statements.zip (dialogue.replies server state)

/-- Whether a value that a dialogue gives stands in a relation to what was answered before and
what is answered on the way. -/
def Concludes (relation : List Exchange → α → Prop) (past : List Exchange) : Dialogue α → Prop
  | .done (.ok value) => relation past value
  | .done (.error _) => True
  | .send statement next =>
      ∀ answer, (next answer).Concludes relation (past ++ [(statement, .answer answer)])

/-- Dialogues that follow one another. -/
theorem Concludes.bind {dialogue : Dialogue α} {next : α → Dialogue β}
    {first : List Exchange → α → Prop} {second : List Exchange → β → Prop}
    (concludes : dialogue.Concludes first past)
    (rest : ∀ known value, first known value → (next value).Concludes second known) :
    (dialogue.bind next).Concludes second past := by
  induction dialogue generalizing past with
  | done result =>
      cases result with
      | ok value => exact rest past value concludes
      | error error => trivial
  | send statement more ih => exact fun answer => ih answer (concludes answer)

/-- A statement whose answer is read concludes what every answer that can be read tells. -/
theorem concludes_ask {relation : List Exchange → α → Prop} {statement : Statement}
    {read : Answer → Option α} {unreadable : Error}
    (tells : ∀ answer value, read answer = some value →
      relation (past ++ [(statement, .answer answer)]) value) :
    (ask statement read unreadable).Concludes relation past := by
  intro answer
  dsimp only
  cases readable : read answer with
  | some value => exact tells answer value readable
  | none => trivial

/-- A run that gives a value bears out what its dialogue concludes. -/
theorem Concludes.run {dialogue : Dialogue α} {relation : List Exchange → α → Prop} {state : State}
    {value : α} (concludes : dialogue.Concludes relation past)
    (ending : (dialogue.run server faults state).ending = .result (.ok value)) :
    relation (past ++ dialogue.exchanges server faults state) value := by
  induction dialogue generalizing past state with
  | done result =>
      cases ending
      rw [exchanges, Dialogue.run, List.zip_nil_left, List.append_nil]
      exact concludes
  | send statement next ih =>
      unfold exchanges
      rw [Dialogue.run] at ending ⊢
      rw [replies]
      rcases replied : server state statement with ⟨answer | failure | silence, after⟩
      · rw [replied] at ending
        have rest := ih answer (concludes answer) ending
        rwa [List.append_assoc] at rest
      -- without an answer the run gives no value
      · rw [replied] at ending
        cases ending
      · rw [replied] at ending
        cases late : faults.late? statement with
        | none => simp [late] at ending
        | some error => simp [late] at ending

end Dialogue

end TableStore.Server
