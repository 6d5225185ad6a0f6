import AgentRank.Arithmetic.Decimal
import AgentRank.Text.Pattern

/-!
# Published prices

This module reads a published price as an integer count of minor units of one currency, or
refuses it.  A price is what structured data holds under a name: a number that the parser left
as it was written, or text that has to look like a number with nothing else in it.

The digits of the ASCII range are written out; the others are those of the character tables.
-/

namespace AgentRank.Importer

open Text Arithmetic

def zeroDecimal : List String :=
  ["BIF", "CLP", "DJF", "GNF", "ISK", "JPY", "KMF", "KRW", "PYG", "RWF", "UGX", "UYI", "VND",
    "VUV", "XAF", "XOF", "XPF"]

def threeDecimal : List String :=
  ["BHD", "IQD", "JOD", "KWD", "LYD", "OMR", "TND"]

def twoDecimal : List String :=
  ["AED", "ARS", "AUD", "BDT", "BGN", "BRL", "CAD", "CHF", "CNY", "COP", "CZK", "DKK", "EGP",
    "EUR", "GBP", "HKD", "HRK", "HUF", "IDR", "ILS", "INR", "KES", "LKR", "MAD", "MXN", "MYR",
    "NGN", "NOK", "NZD", "PEN", "PHP", "PKR", "PLN", "QAR", "RON", "RSD", "RUB", "SAR", "SEK",
    "SGD", "THB", "TRY", "TWD", "TZS", "UAH", "USD", "VES", "ZAR"]

/-- How many minor units one unit of a currency divides into, as a power of ten. -/
def exponent (currency : String) : Option Nat :=
  if currency ∈ zeroDecimal then some 0
  else if currency ∈ threeDecimal then some 3
  else if currency ∈ twoDecimal then some 2
  else none

theorem exponent_le {currency : String} {places : Nat} (known : exponent currency = some places) :
    places ≤ 3 := by
  unfold exponent at known
  split at known
  · cases known; decide
  · split at known
    · cases known; decide
    · split at known
      · cases known; decide
      · cases known

/-- The numbers that are no decimal: the parser reads them as floats. -/
inductive NonFinite
  | nan
  | infinity (negative : Bool)

/-- A value of a structured data document, parsed with `parse_float=Decimal`. -/
inductive Published
  | null
  | boolean (value : Bool)
  | integer (value : Int)
  | decimal (value : Decimal)
  | float (value : NonFinite)
  | string (value : String)
  | array (items : List Published)
  | object (fields : List (String × Published))

/-- `node.get(key)`. -/
def get (node : List (String × Published)) (key : String) : Published :=
  (node.lookup key).getD .null

/-- What `str` writes between the brackets of a list and of a dictionary and for a decimal
number, and what `json.dumps` writes for a node. -/
class Representations where
  items : List Published → String
  fields : List (String × Published) → String
  decimal : Decimal → String
  dumps : List (String × Published) → String

/-- What is written for an empty list, an empty dictionary and a zero. -/
@[reducible]
def emptyRepresentations : Representations where
  items _ := ""
  fields _ := ""
  decimal _ := "0"
  dumps _ := "\x7b\x7d"

/-- `str`. -/
def str [Representations] : Published → String
  | .null => "None"
  | .boolean value => if value then "True" else "False"
  | .integer value => toString value
  | .decimal value => Representations.decimal value
  | .float .nan => "nan"
  | .float (.infinity negative) => if negative then "-inf" else "inf"
  | .string text => text
  | .array items => "[" ++ Representations.items items ++ "]"
  | .object fields => "\x7b" ++ Representations.fields fields ++ "\x7d"

structure RefusedAmountError where
  reason : String
  detail : String
deriving DecidableEq

/-- What reading a price can raise. -/
inductive PriceFailure
  | refused (error : RefusedAmountError)
  | decimal (signal : DecimalException)
deriving DecidableEq

/-- `raise RefusedAmountError(reason, detail)`. -/
def refuse {α : Type} (reason detail : String) : Except PriceFailure α :=
  .error (.refused { reason := reason, detail := detail })

/-- A decimal operation under `except DecimalException`, which turns a signal into a refusal. -/
def orRefuse {α : Type} (operation : Except DecimalException α) (reason detail : String) :
    Except PriceFailure α :=
  match operation with
  | .ok result => .ok result
  | .error _ => refuse reason detail

/-- The table behind `str.upper`. -/
class UpperCase where
  upperChar : Char → List Char

/-- `str.upper()`. -/
def upper [UpperCase] (text : String) : String :=
  String.ofList (text.toList.flatMap UpperCase.upperChar)

/-- The only two currency symbols that name one currency each. -/
def unambiguousSymbols : List (String × String) :=
  [("₹", "INR"), ("€", "EUR")]

/-- `CURRENCY_PATTERN`, for a full match. -/
def isCurrencyCode (text : String) : Bool :=
  text.length == 3 && text.toList.all fun char => 'A' ≤ char && char ≤ 'Z'

/-- The ISO 4217 code a page published, refused unless it published one. -/
def normalizeCurrency [UpperCase] [Representations] (published : Published) :
    Except PriceFailure String :=
  let text := match published with
    | .null => ""
    | value => strip (str value)
  if text.isEmpty then
    refuse "currency_missing" "the page publishes no currency for this price"
  else
    match unambiguousSymbols.lookup text with
    | some symbol => .ok symbol
    | none =>
        if !isCurrencyCode (upper text) then
          refuse "currency_ambiguous"
            "the page states a currency AgentRank cannot read as an ISO 4217 code"
        else if (exponent (upper text)).isNone then
          refuse "currency_unsupported"
            "AgentRank does not know how many minor units that currency divides into"
        else
          .ok (upper text)

section Reading

variable [CharacterTables]

/-- `\d`. -/
def isDigit (char : Char) : Bool :=
  if char.toNat < 128 then char.isDigit else CharacterTables.isDecimal char

def digitOf (char : Char) : Nat :=
  if char.toNat < 128 then char.toNat - '0'.toNat else CharacterTables.digitValue char

/-- The number that some digits write. -/
def positional (digits : List Char) : Nat :=
  digits.foldl (fun number digit => 10 * number + digitOf digit) 0

/-- `^\d{1,15}(\.\d{1,8})?$`, for a full match. -/
def plainDecimal : Pattern :=
  .seq (.many isDigit 1 (some 15))
    (.optional (.group (.seq (.char (· == '.')) (.many isDigit 1 (some 8)))))

/-- `Decimal(text)`, for text that is digits with at most one decimal point among them: no
other text gets there. -/
def decimalOf (text : List Char) : Except DecimalException Decimal :=
  let whole := text.takeWhile isDigit
  match text.dropWhile isDigit with
  | [] => .ok { negative := false, coefficient := positional whole, exponent := 0 }
  | point :: fraction =>
      if point = '.' ∧ fraction.all isDigit then
        .ok
          { negative := false
            coefficient := positional (whole ++ fraction)
            exponent := -fraction.length }
      else
        .error .invalidOperation

def maxPriceAmountMinor : Int := 10 ^ 12

def arithmeticPrecision : Nat := 40

/-- The default context with the precision raised and inexactness trapped. -/
def arithmetic : DecimalContext where
  precision := arithmeticPrecision
  emin := -999999
  emax := 999999

/-- A published text as an exact decimal. -/
def decimalOfText (published : String) : Except PriceFailure Decimal :=
  let text := strip published
  if text.isEmpty then
    refuse "price_missing" "the page publishes no price for this product"
  else if (fullMatch plainDecimal text).isNone then
    refuse "price_malformed"
      "the price is not a plain number, so AgentRank cannot read it without guessing"
  else
    orRefuse (decimalOf text.toList) "price_malformed" "the page publishes no readable price"

variable [Representations]

/-- A published price as an exact decimal, refused unless it is a plain number. -/
def decimal : Published → Except PriceFailure Decimal
  | .boolean _ => refuse "price_malformed" "the page publishes no readable price"
  | .integer value => .ok (Decimal.ofInt value)
  | .decimal value => .ok value
  | .float _ => refuse "price_malformed" "the page publishes no readable price"
  | .null => decimalOfText ""
  | .string text => decimalOfText text
  | .array items => decimalOfText (str (.array items))
  | .object fields => decimalOfText (str (.object fields))

/-- One published figure as an integer count of minor units of one known currency. -/
def minorUnits (published : Published) (currency : String) : Except PriceFailure Int := do
  match exponent currency with
  | none => refuse "currency_unsupported" "that currency has no known minor unit"
  | some places =>
      let figure ← decimal published
      if figure.isNegative then
        refuse "price_negative" "the page publishes a negative price"
      else
        let shifted ← orRefuse (figure.scaleb arithmetic places) "price_malformed"
          "the page publishes a price AgentRank cannot convert exactly"
        if shifted.equal shifted.toIntegralValue then
          if maxPriceAmountMinor < shifted.toInt then
            refuse "price_too_large" "the price is larger than AgentRank will store"
          else
            .ok shifted.toInt
        else
          refuse "price_precision"
            "the price states more decimal places than that currency has minor units"

def aggregateOfferType : String := "aggregateoffer"

/-- `text.rsplit(separator, 1)[-1]`. -/
def afterLast (separator : Char) (text : List Char) : List Char :=
  (text.reverse.takeWhile (· != separator)).reverse

/-- The schema.org types one node claims, lowercased and without a namespace prefix. -/
def types (node : List (String × Published)) : List String :=
  let values :=
    match get node "@type" with
    | .array items => items
    | single => [single]
  values.filterMap fun value =>
    match value with
    | .string text =>
        some (lower (String.ofList (afterLast ':' (afterLast '/' (strip text).toList))))
    | _ => none

/-- One offer's price in minor units, or nothing when it is a range rather than a price. -/
def offeredAmount (offer : List (String × Published)) (currency : String) :
    Except PriceFailure (Option Int) := do
  if aggregateOfferType ∈ types offer then
    match get offer "lowPrice", get offer "highPrice" with
    | .null, .null => return some (← minorUnits (get offer "price") currency)
    | .null, _ | _, .null =>
        refuse "price_missing" "the page publishes one end of a price range and not a price"
    | low, high =>
        let lowest ← minorUnits low currency
        let highest ← minorUnits high currency
        return if lowest = highest then some lowest else none
  else
    return some (← minorUnits (get offer "price") currency)

end Reading

end AgentRank.Importer
