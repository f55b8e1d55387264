import ReferencePages.Text
/-!
Members of a source workspace and the edges between them.
-/

namespace ReferencePages

/-- The group under which a member is shown. Tables accept further groups by their title. -/
inductive Category
  | core | service | worker
  | named (title : Text)
  deriving DecidableEq, Repr

namespace Category

/-- The words that stand for a group. -/
def title : Category → Text
  | core => "Core Library"
  | service => "Service"
  | worker => "FFI Worker"
  | named t => t

/-- The group with a given title. -/
def ofTitle (t : Text) : Category :=
  (([core, service, worker] : List Category).find? (·.title = t)).getD (named t)

end Category

/-- A workspace member with the dependencies that it declares by path. -/
structure Crate where
  name : Text
  memberPath : Text
  category : Category
  pathDependencies : List Text
  deriving DecidableEq, Repr

/-- One member depends on another. -/
structure DependencyEdge where
  source : Text
  target : Text
  deriving DecidableEq, Repr

/-- What decides the group of a member: the members of the core, and the beginnings of the paths of
workers. -/
structure CrateSettings where
  coreMembers : List Text
  workerStarts : List Text
  deriving DecidableEq, Repr

/-- The group of a member. A worker's path counts before anything else. -/
def Category.classify (settings : CrateSettings) (memberPath crateName : Text) : Category :=
  let path := Text.trimWhile (· == '/') (Text.replaceChar '\\' "/" memberPath)
  if settings.workerStarts.any (Text.startsWith · path) then .worker
  else if settings.coreMembers.contains path || settings.coreMembers.contains crateName then .core
  else .service

end ReferencePages
