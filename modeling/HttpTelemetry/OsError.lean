/-!
# Failures of the operating system

The failures that the operating system reports by number, with their usual texts.
-/

set_option autoImplicit false

namespace HttpTelemetry

structure OsError where
  text : String
  number : Nat
  deriving DecidableEq, Repr

namespace OsError

def message (e : OsError) : String := e.text ++ " (os error " ++ toString e.number ++ ")"

def notPermitted : OsError := ⟨"Operation not permitted", 1⟩
def noSuchFile : OsError := ⟨"No such file or directory", 2⟩
def permissionDenied : OsError := ⟨"Permission denied", 13⟩
def fileExists : OsError := ⟨"File exists", 17⟩
def noSuchDevice : OsError := ⟨"No such device", 19⟩
def notADirectory : OsError := ⟨"Not a directory", 20⟩
def isADirectory : OsError := ⟨"Is a directory", 21⟩
def invalidArgument : OsError := ⟨"Invalid argument", 22⟩
def nameTooLong : OsError := ⟨"File name too long", 36⟩
def messageTooLong : OsError := ⟨"Message too long", 90⟩
def addressInUse : OsError := ⟨"Address already in use", 98⟩
def cannotAssignAddress : OsError := ⟨"Cannot assign requested address", 99⟩
def networkUnreachable : OsError := ⟨"Network is unreachable", 101⟩

end OsError

end HttpTelemetry
