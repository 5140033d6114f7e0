/- Why reading or writing stops. -/
namespace QueryBench

inductive Fault where
  | diskFull
  | flushFailed
  | readFailed
  | notFound
  | isDirectory
  | notDirectory
  deriving DecidableEq, Repr

def Fault.message : Fault → String
  | .diskFull => "disk full"
  | .flushFailed => "flush failed"
  | .readFailed => "read failed"
  | .notFound => "No such file or directory (os error 2)"
  | .isDirectory => "Is a directory (os error 21)"
  | .notDirectory => "Not a directory (os error 20)"

end QueryBench
