import LineShell.Error

/-! The form in which trouble that ends the program is shown: the cause, by its name and with what
it carries. -/
namespace LineShell

def FaultKind.form : FaultKind → String
  | .notFound => "NotFound"
  | .permissionDenied => "PermissionDenied"
  | .connectionRefused => "ConnectionRefused"
  | .connectionReset => "ConnectionReset"
  | .hostUnreachable => "HostUnreachable"
  | .networkUnreachable => "NetworkUnreachable"
  | .connectionAborted => "ConnectionAborted"
  | .notConnected => "NotConnected"
  | .addressInUse => "AddrInUse"
  | .addressNotAvailable => "AddrNotAvailable"
  | .networkDown => "NetworkDown"
  | .brokenPipe => "BrokenPipe"
  | .alreadyExists => "AlreadyExists"
  | .wouldBlock => "WouldBlock"
  | .notADirectory => "NotADirectory"
  | .isADirectory => "IsADirectory"
  | .directoryNotEmpty => "DirectoryNotEmpty"
  | .readOnlyFilesystem => "ReadOnlyFilesystem"
  | .filesystemLoop => "FilesystemLoop"
  | .staleNetworkFileHandle => "StaleNetworkFileHandle"
  | .invalidInput => "InvalidInput"
  | .invalidData => "InvalidData"
  | .timedOut => "TimedOut"
  | .storageFull => "StorageFull"
  | .notSeekable => "NotSeekable"
  | .quotaExceeded => "QuotaExceeded"
  | .fileTooLarge => "FileTooLarge"
  | .resourceBusy => "ResourceBusy"
  | .executableFileBusy => "ExecutableFileBusy"
  | .deadlock => "Deadlock"
  | .crossesDevices => "CrossesDevices"
  | .tooManyLinks => "TooManyLinks"
  | .invalidFilename => "InvalidFilename"
  | .argumentListTooLong => "ArgumentListTooLong"
  | .interrupted => "Interrupted"
  | .unsupported => "Unsupported"
  | .outOfMemory => "OutOfMemory"
  | .inProgress => "InProgress"
  | .other => "Other"
  | .uncategorized => "Uncategorized"

def Fault.form : Fault → String
  | .os code =>
    "Os \x7b code: " ++ toString code ++ ", kind: " ++ (Fault.os code).kind.form ++ ", message: " ++
      quoted (describe code) ++ " \x7d"
  | .note kind text =>
    "Error \x7b kind: " ++ kind.form ++ ", message: " ++ quoted text ++ " \x7d"

def EditorFault.form : EditorFault → String
  | .endOfInput => "Eof"
  | .interrupted => "Interrupted"
  | .resized => "WindowResized"
  | .system fault => "Io(" ++ fault.form ++ ")"

def ProcessError.form : ProcessError → String
  | .spawn fault => "Spawn(" ++ fault.form ++ ")"
  | .wait fault => "Wait(" ++ fault.form ++ ")"
  | .signal reason => "SignalError(" ++ quoted reason ++ ")"

def EnvError.form : EnvError → String
  | .invalidName name => "InvalidName(" ++ quoted name ++ ")"
  | .invalidValue reason => "InvalidValue(" ++ quoted reason ++ ")"

def CommandError.form : CommandError → String
  | .usage text => "Usage(" ++ quoted text ++ ")"
  | .system command fault =>
    "Os \x7b command: " ++ quoted command ++ ", source: " ++ fault.form ++ " \x7d"
  | .environment command error =>
    "Env \x7b command: " ++ quoted command ++ ", source: " ++ error.form ++ " \x7d"
  | .write fault => "IoError(" ++ fault.form ++ ")"
  | .process error => "ProcessError(" ++ error.form ++ ")"

def StartupError.form : StartupError → String
  | .noHome => "HomeDirNotFound"
  | .missing path => "ConfigFileNotFound(" ++ quoted path ++ ")"
  | .unreadable fault => "IoError(" ++ fault.form ++ ")"

def ShellError.form : ShellError → String
  | .editor fault => "Readline(" ++ fault.form ++ ")"
  | .io fault => "Io(" ++ fault.form ++ ")"
  | .command error => "CommandError(" ++ error.form ++ ")"
  | .process error => "ProcessError(" ++ error.form ++ ")"
  | .startup error => "ConfigError(" ++ error.form ++ ")"
  | .option reason => "FlagError(" ++ quoted reason ++ ")"

end LineShell
