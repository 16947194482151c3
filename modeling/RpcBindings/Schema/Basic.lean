import RpcBindings.Service.Basic

/-!
# Schemas (SPEC §3)

A schema is what all documents of a run say together, in the order in which they were added.  Two
things can be asked of it as a whole: which services its types refer to without declaring them, and
which services it declares more than once.
-/

set_option autoImplicit false

namespace RpcBindings

/-- The services of a run. -/
structure Schema where
  /-- The files that were read. -/
  documents : List Bytes
  services : List Service
  warnings : List Warning
  deriving Repr, Inhabited

namespace Schema

/-- The schema of no document. -/
def empty : Schema := ⟨[], [], []⟩

/-- Adds a service. -/
def addService (s : Schema) (service : Service) : Schema :=
  { s with services := s.services ++ [service] }

/-- Adds a warning. -/
def addWarning (s : Schema) (w : Warning) : Schema := { s with warnings := s.warnings ++ [w] }

/-- Adds all that a document holds. -/
def addDocument (s : Schema) (d : Document) : Schema where
  documents := s.documents ++ [d.file]
  services := s.services ++ d.services
  warnings := s.warnings ++ d.warnings

/-- The first service with a name, spelled exactly so. -/
def find? (s : Schema) (name : Bytes) : Option Service :=
  s.services.find? fun service => service.name = name

/-! ## References to other services -/

/-- The services that a procedure's types refer to. -/
def referred (p : Procedure) : List Bytes :=
  (p.parameters.flatMap fun q => q.type.services) ++ p.result.services

/-- The services that the types of a schema refer to, as often as they do. -/
def references (s : Schema) : List Bytes :=
  s.services.flatMap fun service => service.procedures.flatMap referred

/-- What going through references has met: the services referred to, each once, and those of them that
are not declared, in the order in which they were met. -/
structure Visit where
  seen : List Bytes
  missing : List Bytes
  deriving DecidableEq, Repr, Inhabited

/-- Meets a reference to a service.  Only the first one to each service counts. -/
def meet (s : Schema) (v : Visit) (name : Bytes) : Visit :=
  if v.seen.contains name then v
  else ⟨name :: v.seen, if (s.find? name).isNone then v.missing ++ [name] else v.missing⟩

/-- The services that types refer to and that are not declared, each once and in increasing
order. -/
def external (s : Schema) : List Bytes := Bytes.sort (s.references.foldl s.meet ⟨[], []⟩).missing

/-! ## Services declared twice -/

/-- The warning about a service whose name a service of the file `first` has already. -/
def duplicate (service : Service) (first : Bytes) : Warning where
  code := Warning.duplicateService
  message := "service " ++ service.name ++ " is declared in both " ++ first ++ " and " ++
    service.file
  file := some service.file
  service := service.name

/-- The warnings about services whose name is taken; `seen` gives the names seen so far with the
file of the first service that has each. -/
def duplicatesFrom (seen : List (Bytes × Bytes)) : List Service → List Warning
  | [] => []
  | service :: rest =>
      match seen.lookup service.name with
      | some first => duplicate service first :: duplicatesFrom seen rest
      | none => duplicatesFrom ((service.name, service.file) :: seen) rest

/-- The warnings about services whose name an earlier service has. -/
def duplicates (s : Schema) : List Warning := duplicatesFrom [] s.services

end Schema

end RpcBindings
