import RegisterMachine.Decimal
import RegisterMachine.Text.Lines

/-!
# Log records

A record has a level, the name of the logger it was given to and a message. Levels are integers;
the usual ones have names. `Record.line` is the line of a log file for a record.
-/

namespace RegisterMachine.Log

namespace Level

def debug : Int := 10

def info : Int := 20

def warning : Int := 30

def name (level : Int) : String :=
  if level = 0 then "NOTSET"
  else if level = 10 then "DEBUG"
  else if level = 20 then "INFO"
  else if level = 30 then "WARNING"
  else if level = 40 then "ERROR"
  else if level = 50 then "CRITICAL"
  else "Level " ++ Decimal.text level

/-- The level of the console for a number of verbosity flags. -/
def ofVerbosity (verbose : Int) : Int :=
  if verbose ≤ 0 then warning else if verbose = 1 then info else debug

end Level

structure Record where
  level : Int
  logger : String
  message : String
deriving DecidableEq, Repr

/-- When and where an entry of a log file was written. -/
structure Stamp where
  time : String
  place : String
deriving DecidableEq, Repr

namespace Record

/-- The line of a log file for a record, with its line feed. -/
def line (stamp : Stamp) (r : Record) : String :=
  stamp.time ++ " | " ++ Text.padRight 7 (Level.name r.level) ++ " | " ++ r.logger ++ " | " ++
    stamp.place ++ " | " ++ r.message ++ "\n"

end Record

end RegisterMachine.Log
