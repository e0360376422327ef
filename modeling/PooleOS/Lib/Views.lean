import PooleOS.Lib.Result

/- Several forms of one thing, with fallible conversions between them: a route of
conversions that each keep what the value stands for keeps it as well. -/
namespace PooleOS

variable {ι : Type} {Form : ι → Type} {Step : ι → ι → Type} {ε δ : Type}

/-- Conversions one after the other. -/
inductive Route (Step : ι → ι → Type) : ι → ι → Type
  | stay {form : ι} : Route Step form form
  | next {first second last : ι} (step : Step first second) (rest : Route Step second last) :
      Route Step first last

namespace Route

/-- The conversions run in order. -/
def run (convert : ∀ ⦃first second : ι⦄, Step first second → Form first → Except ε (Form second)) :
    ∀ {first last : ι}, Route Step first last → Form first → Except ε (Form last)
  | _, _, stay, value => .ok value
  | _, _, next step rest, value => do
      let middle ← convert step value
      run convert rest middle

/-- Each step may be taken for this thing. -/
def Admitted (admits : ∀ ⦃first second : ι⦄, Step first second → δ → Prop) (thing : δ) :
    ∀ {first last : ι}, Route Step first last → Prop
  | _, _, stay => True
  | _, _, next step rest => admits step thing ∧ rest.Admitted admits thing

variable {convert : ∀ ⦃first second : ι⦄, Step first second → Form first → Except ε (Form second)}
  {admits : ∀ ⦃first second : ι⦄, Step first second → δ → Prop}
  {Stands : ∀ ⦃form : ι⦄, Form form → δ → Prop}

/-- A route whose steps are admitted runs through, and its result still stands for the thing. -/
theorem run_keeps (keeps : ∀ ⦃first second : ι⦄ (step : Step first second) {value : Form first} {thing : δ},
      Stands value thing → admits step thing → ∃ result, convert step value = .ok result ∧ Stands result thing)
    {thing : δ} : ∀ {first last : ι} (route : Route Step first last) {value : Form first},
      Stands value thing → route.Admitted admits thing →
        ∃ result, route.run convert value = .ok result ∧ Stands result thing
  | _, _, stay, value, stands, _ => ⟨value, rfl, stands⟩
  | _, _, next step rest, value, stands, admitted => by
      obtain ⟨middle, converted, kept⟩ := keeps step stands admitted.1
      obtain ⟨result, ran, still⟩ := run_keeps keeps rest kept admitted.2
      refine ⟨result, ?_, still⟩
      rw [run, converted]
      exact ran

end Route

end PooleOS
