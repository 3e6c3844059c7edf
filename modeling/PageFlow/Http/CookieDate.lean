import PageFlow.Moment

/-! Dates as cookies give them, in one of four layouts, as seconds from the start of 1970. -/
namespace PageFlow
namespace Http
namespace CookieDate

def shortMonths : List String :=
  ["Jan", "Feb", "Mar", "Apr", "May", "Jun", "Jul", "Aug", "Sep", "Oct", "Nov", "Dec"]

def longDays : List String :=
  ["Monday", "Tuesday", "Wednesday", "Thursday", "Friday", "Saturday", "Sunday"]

def shortDays : List String := longDays.map fun d => (d.take 3).toString

def after? (text : String) (cs : List Char) : Option (List Char) :=
  if text.toList.isPrefixOf cs then some (cs.drop text.length) else none

def name? (names : List String) (cs : List Char) : Option (Nat × List Char) := do
  let i ← names.findIdx? fun name => name.toList.isPrefixOf cs
  some (i, cs.drop (names[i]?.getD "").length)

/-- A number with some least and greatest count of digits, and what follows it. -/
def number? (least most : Nat) (cs : List Char) : Option (Nat × List Char) :=
  let digits := (cs.take most).takeWhile Char.isDigit
  if digits.length < least then none
  else some (digits.foldl (fun n c => n * 10 + (c.toNat - 48)) 0, cs.drop digits.length)

def time? (cs : List Char) : Option (Nat × List Char) := do
  let (hour, cs) ← number? 2 2 cs
  let (minute, cs) ← number? 2 2 (← after? ":" cs)
  let (second, cs) ← number? 2 2 (← after? ":" cs)
  if hour < 24 ∧ minute < 60 ∧ second < 60 then some (hour * 3600 + minute * 60 + second, cs)
  else none

/-- The full year of one that may be written short. -/
def fullYear (year : Nat) : Nat :=
  if year < 69 then year + 2000 else if year < 100 then year + 1900 else year

def seconds (year month day time : Nat) : Option Int :=
  let y : Int := fullYear year
  if 0 < day ∧ day ≤ Moment.monthLength y (month + 1) then
    some (Moment.dayNumber y (month + 1) day * 86400 + time)
  else none

def dated? (days : List String) (separator : String) (least most : Nat) (cs : List Char) :
    Option Int := do
  let (_, cs) ← name? days cs
  let (day, cs) ← number? 2 2 (← after? ", " cs)
  let (month, cs) ← name? shortMonths (← after? separator cs)
  let (year, cs) ← number? least most (← after? separator cs)
  let (time, cs) ← time? (← after? " " cs)
  if cs = " GMT".toList then seconds year month day time else none

def yearLast? (cs : List Char) : Option Int := do
  let (_, cs) ← name? shortDays cs
  let (month, cs) ← name? shortMonths (← after? " " cs)
  let cs ← after? " " cs
  let (day, cs) ← match cs with
    | ' ' :: cs => number? 1 1 cs
    | cs => number? 2 2 cs
  let (time, cs) ← time? (← after? " " cs)
  let (year, cs) ← number? 1 4 (← after? " " cs)
  if cs.isEmpty then seconds year month day time else none

def read? (cs : List Char) : Option Int :=
  dated? shortDays " " 1 4 cs <|> dated? longDays "-" 2 2 cs <|> yearLast? cs <|>
    dated? shortDays "-" 1 4 cs

end CookieDate
end Http
end PageFlow
