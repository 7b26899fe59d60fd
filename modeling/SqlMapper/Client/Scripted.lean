import SqlMapper.Client.Basic

/-!
# Scripted Clients

A client whose answers are prepared.

Each call takes the next answer from a list, and each attempt to connect the
next from another; when a list is used up, calls succeed with little to say.
All sessions share the lists, so a rebuilt connection goes on where the old one
stopped.

## Main definitions

* `ScriptedReply`: A prepared answer.
* `Script`: The answers that are left.
* `Script.supplied`: More answers.
* `Script.answer`: The next answer as the reply to a call.
* `scriptedClient`: The client.
-/

namespace SqlMapper

/-- A prepared answer. -/
structure ScriptedReply where
  /-- The rows, if the call is a query. -/
  rows : List Row := []
  /-- The number of changed rows, if it is not. -/
  affected : UInt64 := 1
  /-- The key that is the latest generated one from then on. -/
  lastId : Option Int64 := none
  /-- The failure of the call. -/
  failure : Option ClientFailure := none
  /-- The tables that others write to while the call runs. -/
  meanwhile : List String := []

/-- The answers that are left. -/
structure Script where
  /-- The answers to calls. -/
  replies : List ScriptedReply := []
  /-- The answers to attempts to connect; nothing stands for success. -/
  connects : List (Option ClientFailure) := []
  /-- The latest generated key. -/
  lastId : Option Int64 := none

namespace Script

/-- More answers behind those that are left. -/
def supplied (s : Script) (replies : List ScriptedReply) (connects : List (Option ClientFailure)) :
    Script :=
  { s with replies := s.replies ++ replies, connects := s.connects ++ connects }

/-- The next answer to a call. -/
def nextReply : StateM Script ScriptedReply := fun s =>
  match s.replies with
  | [] => ({ }, s)
  | reply :: rest =>
    (reply, { s with replies := rest, lastId := reply.lastId <|> s.lastId })

/-- The next answer to an attempt to connect. -/
def nextConnect : StateM Script (Except ClientFailure Unit) := fun s =>
  match s.connects with
  | [] => (.ok (), s)
  | none :: rest => (.ok (), { s with connects := rest })
  | some failure :: rest => (.error failure, { s with connects := rest })

end Script

/-- A prepared answer as the reply to a call. -/
def ScriptedReply.reply {α : Type} (r : ScriptedReply) (result : α) : Reply α where
  outcome :=
    match r.failure with
    | some failure => .error failure
    | none => .ok result
  meanwhile := r.meanwhile

/-- The next answer, with the part of it that the call asks for. -/
def Script.answer {α : Type} (part : ScriptedReply → α) : StateM Script (Reply α) := do
  let r ← nextReply
  return r.reply (part r)

/-- The client whose answers are prepared. -/
def scriptedClient : Client Unit Script where
  connect := fun _ _ => Script.nextConnect
  query := fun _ _ _ => Script.answer ScriptedReply.rows
  execute := fun _ _ _ => Script.answer ScriptedReply.affected
  begin := fun _ => Script.answer fun _ => ()
  commit := fun _ => Script.answer fun _ => ()
  rollback := fun _ => Script.answer fun _ => ()
  lastInsertId := fun _ s => s.lastId

end SqlMapper
