import DomainScout.Logging.Message

/-!
# Forwarded log records

The records of the transport libraries are forwarded from warnings on. A level with a name is
forwarded under its name, any other under its number. The receiving side has a threshold of its
own.
-/
namespace DomainScout.Logging

/-- A record of a transport library. -/
structure LogRecord where
  /-- The name of the logger that the record was made for. -/
  logger : String
  level : Int
  template : String
  arguments : List Value

/-- A record as it is received. -/
structure Received where
  level : String
  number : Int
  message : String

/-- The loggers whose records are forwarded, together with those of their children. -/
def forwardedLoggers : List String := ["httpx", "httpcore"]

/-- A logger is another one or a child of it, which adds a dot and more to the name. -/
def isWithin (parent logger : String) : Bool :=
  logger == parent || (parent ++ ".").toList.isPrefixOf logger.toList

/-- The records of a logger are forwarded. -/
def isForwarded (logger : String) : Bool := forwardedLoggers.any (isWithin · logger)

/-- The least level that is forwarded. -/
def forwardThreshold : Int := 30

/-- The name of a level from warnings on. -/
def levelName (level : Int) : String :=
  if level = 30 then "WARNING"
  else if level = 40 then "ERROR"
  else if level = 50 then "CRITICAL"
  else "Level " ++ toString level

/-- Forward a record, if it is grave enough. -/
def forward (sinkLevel : Int) (logged : LogRecord) : Except Crash (Option Received) :=
  if logged.level < forwardThreshold || !isForwarded logged.logger then .ok none
  else do
    let message ← messageText logged.template logged.arguments
    return if logged.level < sinkLevel then none
      else some ⟨levelName logged.level, logged.level, message⟩

/-- Forward some records. -/
def forwardAll (sinkLevel : Int) (logged : List LogRecord) : Except Crash (List Received) := do
  let received ← logged.mapM (forward sinkLevel)
  return received.filterMap id

end DomainScout.Logging
