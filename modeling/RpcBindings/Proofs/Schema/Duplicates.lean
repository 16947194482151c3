import RpcBindings.Proofs.Name.Taken
import RpcBindings.Schema.Basic

/-!
# Services declared more than once (SPEC §3)

A service that has the name of an earlier one is warned about.  The warning is filed under the
service's own file and names the file of the first service of that name, also when others of that
name stand between the two.
-/

set_option autoImplicit false

namespace RpcBindings.Schema

open RpcBindings.Taken (IsFirst reportsFrom)

/-- Going through the services is the loop over names that are taken. -/
theorem duplicatesFrom_eq_reportsFrom (seen : List (Bytes × Bytes)) (services : List Service) :
    duplicatesFrom seen services =
      reportsFrom Service.name Service.file duplicate seen services := by
  induction services generalizing seen with
  | nil => rfl
  | cons service rest ih =>
      rw [duplicatesFrom, reportsFrom]
      cases seen.lookup service.name with
      | some first => exact congrArg _ (ih seen)
      | none => exact ih _

/-- No warning is given exactly if the services have different names. -/
theorem duplicates_eq_nil_iff {s : Schema} :
    s.duplicates = [] ↔ (s.services.map Service.name).Nodup := by
  rw [duplicates, duplicatesFrom_eq_reportsFrom, Taken.reportsFrom_eq_nil_iff]
  simp

/-- The service at a place is not the first with its name. -/
def Repeats (s : Schema) (i : Nat) : Prop :=
  ∃ service, s.services[i]? = some service ∧
    ∃ j < i, ∃ earlier, s.services[j]? = some earlier ∧ earlier.name = service.name

/-- What the warning about the service at a place looks like. -/
def WarnsAt (s : Schema) (i : Nat) (w : Warning) : Prop :=
  ∃ service first, s.services[i]? = some service ∧
    IsFirst Service.name s.services first ∧ first.name = service.name ∧
    w = { code := "duplicate_service"
          message := "service " ++ service.name ++ " is declared in both " ++ first.file ++ " and " ++
            service.file
          file := some service.file
          service := service.name }

/-- There is one warning, in the order of the services, for each service that is not the first with
its name.  So there are as many warnings as there are services beyond the different names. -/
theorem duplicates_warn_exactly (s : Schema) :
    OneForEach s.Repeats s.WarnsAt s.duplicates ∧
      s.duplicates.length + (s.services.map Service.name).toFinset.card = s.services.length := by
  rw [duplicates, duplicatesFrom_eq_reportsFrom]
  constructor
  · refine Taken.reportsFrom_oneForEach s.services |>.imp ?_ ?_
    · intro i
      simp [Repeats]
    · rintro i w ⟨service, held, hservice, rfl, hheld | ⟨-, first, hfirst, hname, rfl⟩⟩
      · cases hheld
      · exact ⟨service, first, hservice, hfirst, hname, rfl⟩
  · have hlength : (Taken.reportsFrom Service.name Service.file duplicate [] s.services).length + _ =
        s.services.length := Taken.length_reportsFrom_add [] s.services
    simpa using hlength

example :
    let service (name file : Bytes) : Service := ⟨name, [], [], [], file⟩
    let services := [service "UI" "a.json", service "KRPC" "b.json", service "UI" "c.json",
      service "KRPC" "d.json", service "UI" "e.json"]
    let messages : List Bytes := ["service UI is declared in both a.json and c.json",
      "service KRPC is declared in both b.json and d.json",
      "service UI is declared in both a.json and e.json"]
    (Schema.mk [] services []).duplicates.map Warning.message = messages := by
  decide

end RpcBindings.Schema
