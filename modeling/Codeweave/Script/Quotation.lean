import Codeweave.Script.Token
import Codeweave.Text.Identifier

/-!
Where text literals end. Read exactly, a literal ends at the next quote of its kind. Read loosely,
a formatted literal holds expressions that may have literals of their own, so its end is found by
going through them.
-/

namespace Codeweave.Script.Quotation

open Codeweave.Text

def formOf? (word : List Char) : Option LiteralForm :=
  match word.map Char.toLower with
  | [] | ['u'] => some {}
  | ['r'] => some { raw := true }
  | ['f'] => some { formatted := true }
  | ['r', 'f'] | ['f', 'r'] => some { raw := true, formatted := true }
  | ['b'] => some { bytes := true }
  | ['r', 'b'] | ['b', 'r'] => some { raw := true, bytes := true }
  | _ => none

/-- The form that a word announces where texts are read loosely: there is a further letter for
formatted literals. -/
def looseFormOf? (word : List Char) : Option LiteralForm :=
  formOf? (word.map fun c => if c.toLower == 't' then 'f' else c)

/-- What stands before the closing quotes and what follows them. A backslash takes the next
character with it; only a triple-quoted text may hold newlines. -/
def untilQuote (quote : Char) (triple : Bool) : List Char → Option (List Char × List Char)
  | [] => none
  | '\\' :: c :: rest => (untilQuote quote triple rest).map fun (b, r) => ('\\' :: c :: b, r)
  | c :: rest =>
    if c == quote then
      if triple then
        if [quote, quote].isPrefixOf rest then some ([], rest.drop 2)
        else (untilQuote quote triple rest).map fun (b, r) => (c :: b, r)
      else some ([], rest)
    else if c == '\n' && !triple then none
    else (untilQuote quote triple rest).map fun (b, r) => (c :: b, r)

def literal? (cs : List Char) : Option (List Char × List Char) :=
  match cs with
  | q :: rest =>
    if [q, q].isPrefixOf rest then untilQuote q true (rest.drop 2) else untilQuote q false rest
  | [] => none

/-! ### Formatted literals read loosely -/

structure Frame where
  quote : Char
  triple : Bool
  raw : Bool
deriving DecidableEq

/-- The frame of a literal whose opening quote comes next, and what follows its opening. -/
def frameOf (form : LiteralForm) : List Char → Frame × List Char
  | q :: rest =>
    if [q, q].isPrefixOf rest then (⟨q, true, form.raw⟩, rest.drop 2)
    else (⟨q, false, form.raw⟩, rest)
  | [] => (⟨'"', false, form.raw⟩, [])

def Frame.close? (f : Frame) (cs : List Char) : Option (List Char) :=
  let quotes := if f.triple then [f.quote, f.quote, f.quote] else [f.quote]
  if quotes.isPrefixOf cs then some (cs.drop quotes.length) else none

inductive Position where
  | plain
  /-- in an expression, with so many brackets open; its source so far, the last character first -/
  | value (brackets : Nat) (source : List Char)
  | format

/-- The sources of the expressions in a formatted literal, and what follows the literal, in at most
the given number of steps. The expressions may stand in so many formats of other expressions. -/
def valuesFrom (f : Frame) : Nat → Nat → Position → List Char →
    Option (List (List Char) × List Char)
  | 0, _, _, _ => none
  | _ + 1, _, _, [] => none
  | fuel + 1, depth, .plain, c :: rest =>
    match f.close? (c :: rest) with
    | some after => some ([], after)
    | none =>
      match c, rest with
      | '\\', d :: more =>
        if d == 'N' && !f.raw && more.head? == some '\x7b' then
          valuesFrom f fuel depth .plain ((more.dropWhile (· != '\x7d')).drop 1)
        else if d == '\x7b' || d == '\x7d' then valuesFrom f fuel depth .plain (d :: more)
        else valuesFrom f fuel depth .plain more
      | '\x7b', '\x7b' :: more | '\x7d', '\x7d' :: more => valuesFrom f fuel depth .plain more
      | '\x7b', _ => valuesFrom f fuel depth (.value 0 []) rest
      | '\x7d', _ => none
      | '\n', _ => if f.triple then valuesFrom f fuel depth .plain rest else none
      | _, _ => valuesFrom f fuel depth .plain rest
  | fuel + 1, depth, .format, c :: rest =>
    match f.close? (c :: rest) with
    | some _ => none
    | none =>
      match c, rest with
      | '\x7b', '\x7b' :: more | '\x7d', '\x7d' :: more =>
        if c == '\x7d' && depth > 1 then valuesFrom f fuel (depth - 1) .format rest
        else if c == '\x7d' then valuesFrom f fuel 0 .plain rest
        else valuesFrom f fuel depth .format more
      | '\x7b', _ => valuesFrom f fuel depth (.value 0 []) rest
      | '\x7d', _ =>
        if depth > 1 then valuesFrom f fuel (depth - 1) .format rest
        else valuesFrom f fuel 0 .plain rest
      | '\n', _ => if f.triple then valuesFrom f fuel depth .format rest else none
      | _, _ => valuesFrom f fuel depth .format rest
  | fuel + 1, depth, .value brackets source, c :: rest =>
    let goOn (n : Nat) (taken after : List Char) :=
      valuesFrom f fuel depth (.value n (taken.reverse ++ source)) after
    if c == '\'' || c == '"' then
      match literal? (c :: rest) with
      | some (_, after) => goOn brackets ((c :: rest).take (rest.length + 1 - after.length)) after
      | none => none
    else if Identifier.isStart c then
      let word := (c :: rest).takeWhile Identifier.isContinue
      let after := (c :: rest).dropWhile Identifier.isContinue
      match after.head?, looseFormOf? word with
      | some '"', some form | some '\'', some form =>
        if form.formatted then
          let (g, inside) := frameOf form after
          if g.quote == f.quote && g.triple == f.triple then none
          else
            match valuesFrom g fuel 0 .plain inside with
            | some (_, behind) =>
              goOn brackets (word ++ after.take (after.length - behind.length)) behind
            | none => none
        else
          match literal? after with
          | some (_, behind) =>
            goOn brackets (word ++ after.take (after.length - behind.length)) behind
          | none => none
      | _, _ => goOn brackets word after
    else if c == '(' || c == '[' || c == '\x7b' then goOn (brackets + 1) [c] rest
    else if c == '\\' then
      match rest with
      | '\n' :: more => goOn brackets [c, '\n'] more
      | _ => none
    else if c == '\n' then if f.triple then goOn brackets [c] rest else none
    else if c == '#' then
      if f.triple then
        let comment := (c :: rest).takeWhile (· != '\n')
        goOn brackets comment ((c :: rest).drop comment.length)
      else none
    else if brackets > 0 then
      if c == ')' || c == ']' || c == '\x7d' then goOn (brackets - 1) [c] rest
      else goOn brackets [c] rest
    else if c == '\x7d' then
      (valuesFrom f fuel depth (if depth > 0 then .format else .plain) rest).map fun (vs, r) =>
        (source.reverse :: vs, r)
    else if c == ':' then
      (valuesFrom f fuel (depth + 1) .format rest).map fun (vs, r) => (source.reverse :: vs, r)
    else goOn brackets [c] rest

def values? (form : LiteralForm) (cs : List Char) : Option (List (List Char) × List Char) :=
  let (f, inside) := frameOf form cs
  valuesFrom f (cs.length + 1) 0 .plain inside

end Codeweave.Script.Quotation
