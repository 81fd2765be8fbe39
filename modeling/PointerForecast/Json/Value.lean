/-
**JSON values.**

A text is read in one pass over its tokens, with a stack of the arrays and objects that are open, so
that the depth of a text is bounded by nothing but its length. Keys are kept in order, with
repetitions.

A text need not be JSON to the end. What precedes the first place where it is not is read all the
same, and `unread` stands for what is missing there (`JsonValue.ofText`): a reader that takes the
values in the order of the text meets the first thing wrong, be it a value that does not fit or the
end of what is JSON.
-/

import PointerForecast.Json.Token

namespace PointerForecast

/-- A JSON value. -/
inductive JsonValue where
  /-- Null, true or false. -/
  | word (word : Option Bool)
  /-- A number. -/
  | number (numeral : JsonNumeral)
  /-- A string, with its text if it has one. -/
  | string (text : Option String)
  /-- A list of values. -/
  | array (items : List JsonValue)
  /-- Values with their keys, in order. -/
  | object (entries : List (Option String × JsonValue))
  /-- What is missing where the text stops being JSON. -/
  | unread

namespace JsonValue

/-- An array or an object that is open, its content latest first. -/
inductive Enclosure where
  /-- An array with the items read so far. -/
  | array (items : List JsonValue)
  /-- An object with the entries read so far, and the key of the value that comes next. -/
  | object (entries : List (Option String × JsonValue)) (key : Option String)

/-- What may come next. -/
inductive Expectation where
  /-- A value; or, just after the beginning of an array, its end. -/
  | value (first : Bool)
  /-- A key; or, just after the beginning of an object, its end. -/
  | key (first : Bool)
  /-- The colon after a key. -/
  | colon
  /-- A comma or the end of the innermost enclosure. -/
  | separator
  /-- The end of the text. -/
  | nothing (value : JsonValue)

/-- What is open, innermost first, and what may come next. -/
structure Progress where
  /-- The enclosures. -/
  enclosures : List Enclosure
  /-- What may come next. -/
  expectation : Expectation

/-- The progress after a value. -/
def Progress.place (enclosures : List Enclosure) (value : JsonValue) : Progress :=
  match enclosures with
  | [] => ⟨[], .nothing value⟩
  | .array items :: outer => ⟨.array (value :: items) :: outer, .separator⟩
  | .object entries key :: outer => ⟨.object ((key, value) :: entries) none :: outer, .separator⟩

/-- The value of a token that is one by itself. -/
def ofToken? : JsonToken → Option JsonValue
  | .word given => some (.word given)
  | .number numeral => some (.number numeral)
  | .string text => some (.string text)
  | _ => none

/-- The progress after a token, unless the token cannot stand there. -/
def Progress.step (progress : Progress) (token : JsonToken) : Option Progress :=
  match progress.expectation, token, progress.enclosures with
  | .value _, .openArray, enclosures => some ⟨.array [] :: enclosures, .value true⟩
  | .value _, .openObject, enclosures => some ⟨.object [] none :: enclosures, .key true⟩
  | .value true, .closeArray, .array items :: outer =>
    some (place outer (.array items.reverse))
  | .value _, token, enclosures => (ofToken? token).map (place enclosures)
  | .key _, .string text, .object entries _ :: outer =>
    some ⟨.object entries text :: outer, .colon⟩
  | .key true, .closeObject, .object entries _ :: outer =>
    some (place outer (.object entries.reverse))
  | .colon, .colon, enclosures => some ⟨enclosures, .value false⟩
  | .separator, .comma, .array items :: outer => some ⟨.array items :: outer, .value false⟩
  | .separator, .comma, .object entries key :: outer =>
    some ⟨.object entries key :: outer, .key false⟩
  | .separator, .closeArray, .array items :: outer => some (place outer (.array items.reverse))
  | .separator, .closeObject, .object entries _ :: outer =>
    some (place outer (.object entries.reverse))
  | _, _, _ => none

/-- The enclosure as a value, with one more value in it that ends it. -/
def Enclosure.close (enclosure : Enclosure) (last : JsonValue) : JsonValue :=
  match enclosure with
  | .array items => .array (last :: items).reverse
  | .object entries key => .object ((key, last) :: entries).reverse

/-- What has been read, with `unread` where the text went wrong. -/
def Progress.close (progress : Progress) : JsonValue :=
  match progress.expectation with
  | .nothing value => value
  | _ => progress.enclosures.foldl (fun value enclosure => enclosure.close value) .unread

/-- Follows tokens as long as they fit; says whether they all did and the value is complete. -/
def Progress.follow : Progress → List JsonToken → JsonValue × Bool
  | progress, [] =>
    (progress.close, match progress.expectation with
      | .nothing _ => true
      | _ => false)
  | progress, token :: rest =>
    match progress.step token with
    | some next => next.follow rest
    | none => (progress.close, false)

/-- What a text denotes, as far as it is JSON; and whether all of it is. -/
def ofText (text : String) : JsonValue × Bool :=
  Progress.follow ⟨[], .value false⟩ (JsonToken.scan text.toList [])

end JsonValue

end PointerForecast
