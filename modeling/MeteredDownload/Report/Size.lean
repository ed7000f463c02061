import MeteredDownload.Numeric.Decimal
import MeteredDownload.Text.Align

/-!
# Byte counts and rates as text

A count is written in the largest binary unit that it reaches: whole bytes in three columns, all other
units with one decimal in five.  A rate is a count followed by `/s`.
-/
set_option autoImplicit false
namespace MeteredDownload.Report

open Numeric Text

inductive SizeUnit where
  | bytes
  | kibibytes
  | mebibytes
  | gibibytes
  deriving DecidableEq, Repr

namespace SizeUnit

def factor : SizeUnit → Nat
  | bytes => 1
  | kibibytes => 1024
  | mebibytes => 1024 * 1024
  | gibibytes => 1024 * 1024 * 1024

def symbol : SizeUnit → String
  | bytes => "B"
  | kibibytes => "KiB"
  | mebibytes => "MiB"
  | gibibytes => "GiB"

def ofSize (size : Binary64) : SizeUnit :=
  if (Binary64.ofNat gibibytes.factor).le size then gibibytes
  else if (Binary64.ofNat mebibytes.factor).le size then mebibytes
  else if (Binary64.ofNat kibibytes.factor).le size then kibibytes
  else bytes

end SizeUnit

def amountText (unit : SizeUnit) (size : Binary64) : String :=
  match unit with
  | .bytes => alignRight 3 (size.fixedText 0)
  | unit => alignRight 5 ((size / Binary64.ofNat unit.factor).fixedText 1)

def sizeText (size : Binary64) : String :=
  let unit := SizeUnit.ofSize size
  amountText unit size ++ " " ++ unit.symbol

def rateText (bytesPerSecond : Binary64) : String := sizeText bytesPerSecond ++ "/s"

end MeteredDownload.Report
