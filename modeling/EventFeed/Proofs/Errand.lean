import EventFeed.Errand

/-!
# Laws of errands

Errands are a lawful monad. What one may come to does not depend on a world: it is the result behind some
answer to everything that the errand asks for. In a world it comes to one of these results, and sends what its
parts send, one after the other.
-/

namespace EventFeed.Errand

variable {α β γ : Type}

/-! ## One errand after another -/

theorem bind_done (errand : Errand α) : errand.bind done = errand := by
  induction errand with
  | done result => rfl
  | send request onward ih => simp only [bind, ih]
  | locate onward ih => simp only [bind, ih]
  | inspect path onward ih => simp only [bind, ih]
  | takePort port onward ih => simp only [bind, ih]
  | elapsed onward ih => simp only [bind, ih]
  | publish metrics onward ih => simp only [bind, ih]

theorem bind_assoc (first : Errand α) (second : α → Errand β) (third : β → Errand γ) :
    (first.bind second).bind third = first.bind fun result => (second result).bind third := by
  induction first with
  | done result => rfl
  | send request onward ih => simp only [bind, ih]
  | locate onward ih => simp only [bind, ih]
  | inspect path onward ih => simp only [bind, ih]
  | takePort port onward ih => simp only [bind, ih]
  | elapsed onward ih => simp only [bind, ih]
  | publish metrics onward ih => simp only [bind, ih]

instance : LawfulMonad Errand :=
  LawfulMonad.mk' Errand bind_done (fun _ _ => rfl) bind_assoc

/-- One errand after another sends what the first one sends and then what the other one sends, which finds so
many more requests arrived. -/
theorem runFrom_bind (world : World) (first : Errand α) (next : α → Errand β) (arrived : Nat) :
    (first.bind next).runFrom world arrived =
      ((first.runFrom world arrived).1 ++
          ((next (first.runFrom world arrived).2).runFrom world
            (arrived + (first.runFrom world arrived).1.length)).1,
        ((next (first.runFrom world arrived).2).runFrom world
          (arrived + (first.runFrom world arrived).1.length)).2) := by
  induction first generalizing arrived with
  | done result => rfl
  | send request onward ih =>
      rw [bind, runFrom, runFrom]
      split
      · dsimp only
        rw [ih, List.length_cons, List.cons_append, Nat.add_assoc, Nat.add_comm 1]
      · exact ih _ arrived
  | locate onward ih => exact ih _ arrived
  | inspect path onward ih => exact ih _ arrived
  | takePort port onward ih => exact ih _ arrived
  | elapsed onward ih => exact ih _ arrived
  | publish metrics onward ih => exact ih arrived

/-! ## What an errand may come to -/

/-- The result is what some answers lead to. -/
inductive ComesTo : Errand α → α → Prop where
  | done (result : α) : ComesTo (done result) result
  | send {request : Http.Request} {next : Http.Reply → Errand α} {result : α} (reply : Http.Reply)
      (later : ComesTo (next reply) result) : ComesTo (send request next) result
  | locate {next : Except SystemFault (List FileName) → Errand α} {result : α}
      (directory : Except SystemFault (List FileName)) (later : ComesTo (next directory) result) :
      ComesTo (locate next) result
  | inspect {path : Path} {next : Except SystemFault Found → Errand α} {result : α}
      (found : Except SystemFault Found) (later : ComesTo (next found) result) :
      ComesTo (inspect path next) result
  | takePort {port : Nat} {next : Option SystemFault → Errand α} {result : α} (fault : Option SystemFault)
      (later : ComesTo (next fault) result) : ComesTo (takePort port next) result
  | elapsed {next : Duration → Errand α} {result : α} (span : Duration) (later : ComesTo (next span) result) :
      ComesTo (elapsed next) result
  | publish {metrics : Metrics} {next : Errand α} {result : α} (later : ComesTo next result) :
      ComesTo (publish metrics next) result

/-- In a world an errand comes to what it may come to. -/
theorem comesTo_runFrom (world : World) (errand : Errand α) (arrived : Nat) :
    errand.ComesTo (errand.runFrom world arrived).2 := by
  induction errand generalizing arrived with
  | done result => exact .done result
  | send request next ih =>
      rw [runFrom]
      split
      · exact .send _ (ih _ _)
      · exact .send _ (ih _ _)
  | locate next ih => exact .locate _ (ih _ _)
  | inspect path next ih => exact .inspect _ (ih _ _)
  | takePort port next ih => exact .takePort _ (ih _ _)
  | elapsed next ih => exact .elapsed _ (ih _ _)
  | publish metrics next ih => exact .publish (ih _)

/-- The same errand, with the knowledge that it may come to its result. -/
def attach (errand : Errand α) : Errand (Subtype errand.ComesTo) :=
  match errand with
  | done result => done ⟨result, .done result⟩
  | send request next => send request fun reply =>
      (next reply).attach.bind fun result => done ⟨result.1, .send reply result.2⟩
  | locate next => locate fun directory =>
      (next directory).attach.bind fun result => done ⟨result.1, .locate directory result.2⟩
  | inspect path next => inspect path fun found =>
      (next found).attach.bind fun result => done ⟨result.1, .inspect found result.2⟩
  | takePort port next => takePort port fun fault =>
      (next fault).attach.bind fun result => done ⟨result.1, .takePort fault result.2⟩
  | elapsed next => elapsed fun span =>
      (next span).attach.bind fun result => done ⟨result.1, .elapsed span result.2⟩
  | publish metrics next => publish metrics
      (next.attach.bind fun result => done ⟨result.1, .publish result.2⟩)

theorem attach_bind_val (errand : Errand α) : (errand.attach.bind fun result => done result.1) = errand := by
  induction errand with
  | done result => rfl
  | send request next ih => simp only [attach, bind, bind_assoc, ih]
  | locate next ih => simp only [attach, bind, bind_assoc, ih]
  | inspect path next ih => simp only [attach, bind, bind_assoc, ih]
  | takePort port next ih => simp only [attach, bind, bind_assoc, ih]
  | elapsed next ih => simp only [attach, bind, bind_assoc, ih]
  | publish metrics next ih => simp only [attach, bind, bind_assoc, ih]

theorem of_comesTo_map_val {P : α → Prop} {errand : Errand (Subtype P)} {value : α}
    (comes : (errand.bind fun result => done result.1).ComesTo value) : P value := by
  induction errand with
  | done result =>
      cases comes
      exact result.2
  | send request next ih => cases comes with | send reply later => exact ih reply later
  | locate next ih => cases comes with | locate directory later => exact ih directory later
  | inspect path next ih => cases comes with | inspect found later => exact ih found later
  | takePort port next ih => cases comes with | takePort fault later => exact ih fault later
  | elapsed next ih => cases comes with | elapsed span later => exact ih span later
  | publish metrics next ih => cases comes with | publish later => exact ih later

instance : MonadAttach Errand where
  CanReturn := ComesTo
  attach := attach

instance : LawfulMonadAttach Errand where
  map_attach {_ errand} := attach_bind_val errand
  canReturn_map_imp comes := of_comesTo_map_val comes

end EventFeed.Errand
