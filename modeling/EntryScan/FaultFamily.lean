/-!
# EntryScan.FaultFamily

The families of faults that a caller may tell apart. A family may belong to several others.
-/

namespace EntryScan

inductive FaultFamily where
  | general
  | unsupportedArchitecture
  | container
  | malformedContainer
  | sectionNotFound
  | containerRead
  | sectionRead
  | unsupportedMachine
deriving DecidableEq, Repr

namespace FaultFamily

def all : List FaultFamily :=
  [.general, .unsupportedArchitecture, .container, .malformedContainer, .sectionNotFound,
    .containerRead, .sectionRead, .unsupportedMachine]

def name : FaultFamily → String
  | .general => "FuncFinderError"
  | .unsupportedArchitecture => "UnsupportedArchitectureError"
  | .container => "ContainerError"
  | .malformedContainer => "MalformedContainerError"
  | .sectionNotFound => "SectionNotFoundError"
  | .containerRead => "ContainerReadError"
  | .sectionRead => "SectionReadError"
  | .unsupportedMachine => "UnsupportedMachineError"

def ofName? (name : String) : Option FaultFamily := all.find? (·.name = name)

/-- The families that a family belongs to, from itself to the most general. -/
def lineage : FaultFamily → List FaultFamily
  | .general => [.general]
  | .unsupportedArchitecture => [.unsupportedArchitecture, .general]
  | .container => [.container, .general]
  | .malformedContainer => [.malformedContainer, .container, .general]
  | .sectionNotFound => [.sectionNotFound, .container, .general]
  | .containerRead => [.containerRead, .container, .general]
  | .sectionRead => [.sectionRead, .containerRead, .container, .general]
  | .unsupportedMachine => [.unsupportedMachine, .container, .unsupportedArchitecture, .general]

end FaultFamily
end EntryScan
