import QueryAssist.Cursor.Context
import QueryAssist.Json.Basic
/-!
# Reporting a context

A context as a JSON object, for clients that ask for it.
-/

namespace QueryAssist.Cursor.Context

open Json (str int bool arr null)

def optionalText : Option String → Json
  | some s => str s
  | none => null

def members (ctx : Context) : List (String × Json) := [
  ("type", str ctx.kind.name),
  ("path", arr (ctx.path.map str)),
  ("currentKey", optionalText ctx.currentKey),
  ("parentKey", optionalText ctx.parentKey),
  ("inArray", bool ctx.inArray),
  ("depth", int ctx.depth),
  ("expectedTypes", (ctx.expected.map fun names => arr (names.map str)).getD null),
  ("cursorPos", int ctx.cursor),
  ("currentWord", str ctx.word),
  ("inString", bool ctx.inString),
  ("afterColon", bool ctx.afterColon)]

def parentMembers (ctx : Context) : List (String × Json) := [
  ("parentQueryType", optionalText ctx.parentQuery),
  ("parentAggType", optionalText ctx.parentAggregation),
  ("canAddQueryType", bool ctx.canAddQuery),
  ("canAddAggregation", bool ctx.canAddAggregation)]

def report (ctx : Context) : Json :=
  .obj (ctx.members ++ ctx.parentMembers)

end QueryAssist.Cursor.Context
