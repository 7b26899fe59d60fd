import SqlMapper.Log
import SqlMapper.Settings.Basic

/-!
# Options of a Connection

How a connection behaves, apart from where it leads.

Settings decide the options; a host that opens a connection without settings
gets the standard ones.

## Main definitions

* `Options`: How a connection behaves.
* `Options.ofSettings`: The options that settings ask for.
* `Options.summary`: The options as diagnostics show them.
-/

namespace SqlMapper

/-- How a connection behaves. -/
structure Options where
  /-- Whether statements are previewed in the log, and schemas checked each time. -/
  debug : Bool := false
  /-- The attempts a statement gets. -/
  retry : RetryPolicy := { }
  /-- How long a cached read lives, in seconds; reads are not cached without it. -/
  cacheTtl : Option UInt64 := some 300
  deriving Repr, DecidableEq

/-- A policy as diagnostics show it. -/
def RetryPolicy.summary (p : RetryPolicy) : String :=
  "RetryPolicy \x7b max_attempts: " ++ toString p.maxAttempts.toNat ++ ", base_delay_ms: "
    ++ toString p.baseDelayMs.toNat ++ " \x7d"

/-- A time to live as diagnostics show it. -/
def ttlSummary : Option UInt64 → String
  | none => "None"
  | some seconds => if seconds = 0 then "Some(0ns)" else "Some(" ++ toString seconds.toNat ++ "s)"

namespace Options

/-- The options that settings ask for. -/
def ofSettings (s : Settings) : Options where
  debug := s.debug
  retry := s.retry
  cacheTtl := if s.cache.enabled then some s.cache.ttlSecs else none

/-- The options as diagnostics show them. -/
def summary (o : Options) : String :=
  "DatabaseOptions \x7b debug: " ++ truthWord o.debug ++ ", retry: " ++ o.retry.summary
    ++ ", cache_ttl: " ++ ttlSummary o.cacheTtl ++ " \x7d"

end Options

end SqlMapper
