/-!
# Results

What is known of the steps that lead to a result where each of them may fail.
-/

namespace Docloom

namespace Results

variable {ε φ α β : Type} {first : Except ε α} {next : α -> Except ε β} {result : β}

theorem exists_of_bind (h : first >>= next = .ok result) :
    exists value, first = .ok value ∧ next value = .ok result := by
  cases first with
  | error error =>
      cases h
  | ok value =>
      exact ⟨value, rfl, h⟩

theorem exists_of_map {f : α -> β} (h : first.map f = .ok result) :
    exists value, first = .ok value ∧ f value = result := by
  cases first with
  | error error =>
      cases h
  | ok value =>
      exact ⟨value, rfl, Except.ok.inj h⟩

theorem error_of_map {f : α -> β} {fault : ε} (h : first.map f = .error fault) :
    first = .error fault := by
  cases first with
  | error other =>
      rw [Except.error.inj h]
  | ok value =>
      cases h

theorem of_mapError {f : ε -> φ} {value : α} (h : first.mapError f = .ok value) :
    first = .ok value := by
  cases first with
  | error error =>
      cases h
  | ok other =>
      rw [Except.ok.inj h]

end Results
end Docloom
