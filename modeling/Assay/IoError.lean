import Assay.IoError.Numbered

/-!
# Errors of the operating system

An I/O error is known by its number, or by its kind alone, or by a kind and a text of its own. Its
text is what a report shows. An error with a text of its own may come from other errors; a report
shows their texts too.
-/

namespace Assay

/-- An I/O error. -/
inductive IoError where
  /-- An error that the operating system reported by its number. -/
  | os (number : Int)
  /-- An error of which only the kind is known. -/
  | simple (kind : IoKind)
  /-- An error with a text of its own, and the texts of the errors it comes from, the outermost
  first. -/
  | custom (kind : IoKind) (text : String) (sources : List String := [])
deriving DecidableEq, Repr, Inhabited

namespace IoError

/-- The caller may not do that, whatever it is done to. -/
def notPermitted : IoError := .os 1

/-- No such file or directory. -/
def noEntry : IoError := .os 2

/-- There is no such process. -/
def noProcess : IoError := .os 3

/-- A signal came in the meantime. -/
def interrupted : IoError := .os 4

/-- There is no such device. -/
def noDevice : IoError := .os 6

/-- The arguments are too long. -/
def tooMuch : IoError := .os 7

/-- The file is in no format that can be run. -/
def execFormat : IoError := .os 8

/-- The descriptor is not open, or not for that. -/
def badDescriptor : IoError := .os 9

/-- There is no child to wait for. -/
def noChild : IoError := .os 10

/-- Permission denied. -/
def access : IoError := .os 13

/-- The file is there already. -/
def alreadyThere : IoError := .os 17

/-- A component that has to be a directory is none. -/
def notDirectory : IoError := .os 20

/-- The path names a directory. -/
def isDirectory : IoError := .os 21

/-- The argument makes no sense. -/
def invalid : IoError := .os 22

/-- No more descriptors are to be had. -/
def tooManyOpenFiles : IoError := .os 24

/-- The file would be larger than it may be. -/
def fileTooLarge : IoError := .os 27

/-- The program is being executed. -/
def busy : IoError := .os 26

/-- There is no space left. -/
def noSpace : IoError := .os 28

/-- The file has no places in it. -/
def noSeek : IoError := .os 29

/-- Nobody reads from the pipe. -/
def brokenPipe : IoError := .os 32

/-- The directory holds files. -/
def notEmpty : IoError := .os 39

/-- A component of the path is longer than a name may be. -/
def nameTooLong : IoError := .os 36

/-- Too many links stand on the way. -/
def linkLoop : IoError := .os 40

/-- The file system cannot do that. -/
def notSupported : IoError := .os 95

/-- The kind of an error. -/
def kind : IoError → IoKind
  | os number => kindOfNumber number
  | simple kind => kind
  | custom kind .. => kind

/-- What an error says, without its number. -/
def reason : IoError → String
  | os number => textOfNumber number
  | simple kind => kind.message
  | custom _ text _ => text

/-- The text of an error. A numbered error shows its number. -/
def message : IoError → String
  | os number => textOfNumber number ++ " (os error " ++ Text.integer number ++ ")"
  | simple kind => kind.message
  | custom _ text _ => text

/-- The texts of the errors that an error comes from, the outermost first. -/
def sources : IoError → List String
  | os _ | simple _ => []
  | custom _ _ sources => sources

/-- The texts of an error and of the errors that it comes from. -/
def chain (e : IoError) : List String := e.message :: e.sources

end IoError

end Assay
