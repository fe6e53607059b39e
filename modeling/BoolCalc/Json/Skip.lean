import BoolCalc.Json.Blank
import BoolCalc.Json.Number
import BoolCalc.Json.Quote

/-!
# Passing over a value

A member with an unknown key may hold any value. The value is passed over, and has to be JSON. The
recursion is bounded by twice the length of the text: of two calls within each other at least one
has taken a character, so the bound is never met.
-/

namespace BoolCalc.Json

mutual

/-- The text behind the value at the front of a text. -/
def skipValueWithin : Nat → List Char → Except Fault (List Char)
  | 0, _ => .error (.here .endOfValue [])
  | fuel + 1, text =>
    match skipSpaces text with
    | [] => .error (.here .endOfValue [])
    | c :: cs =>
      if c = 'n' then word ['u', 'l', 'l'] cs
      else if c = 't' then word ['r', 'u', 'e'] cs
      else if c = 'f' then word ['a', 'l', 's', 'e'] cs
      else if c = '-' then skipNumber cs
      else if c.isDigit then skipNumber (c :: cs)
      else if c = '"' then skipStringBody cs
      else if c = '[' then
        match skipSpaces cs with
        | [] => .error (.here .endOfList [])
        | d :: ds => if d = ']' then .ok ds else skipElements fuel (d :: ds)
      else if c = '\x7b' then
        match skipSpaces cs with
        | [] => .error (.here .endOfObject [])
        | d :: ds => if d = '\x7d' then .ok ds else skipMembers fuel (d :: ds)
      else .error (.next .noValue (c :: cs))

/-- The text behind a list, from its next element on. -/
def skipElements : Nat → List Char → Except Fault (List Char)
  | 0, _ => .error (.here .endOfList [])
  | fuel + 1, text => do
    match skipSpaces (← skipValueWithin fuel text) with
    | [] => .error (.here .endOfList [])
    | c :: cs =>
      if c = ',' then skipElements fuel cs
      else if c = ']' then .ok cs
      else .error (.next .noListEnd (c :: cs))

/-- The text behind an object, from its next member on. -/
def skipMembers : Nat → List Char → Except Fault (List Char)
  | 0, _ => .error (.here .endOfObject [])
  | fuel + 1, text =>
    match skipSpaces text with
    | [] => .error (.here .endOfObject [])
    | c :: cs =>
      if c = '"' then do
        match skipSpaces (← skipStringBody cs) with
        | [] => .error (.here .endOfObject [])
        | d :: ds =>
          if d = ':' then
            match skipSpaces (← skipValueWithin fuel ds) with
            | [] => .error (.here .endOfObject [])
            | e :: es =>
              if e = ',' then skipMembers fuel es
              else if e = '\x7d' then .ok es
              else .error (.next .noObjectEnd (e :: es))
          else .error (.next .noColon (d :: ds))
      else .error (.next .keyNotString (c :: cs))

end

/-- The text behind the value at the front of a text. -/
def skipValue (text : List Char) : Except Fault (List Char) :=
  skipValueWithin (2 * text.length + 2) text

end BoolCalc.Json
