import FormEngine.Values.Basic

/-!
The built-in tables of look-ups: addresses by postal code, companies by registration number, and the
rules for the numbers of documents.
-/

namespace FormEngine.Lookup

structure Address where
  postalCode : String
  city : String
  oblast : String

def addresses : List Address :=
  [⟨"1000", "София", "София-град"⟩,
   ⟨"1040", "София", "София-град"⟩,
   ⟨"1164", "София", "София-град"⟩,
   ⟨"1500", "София", "София-град"⟩,
   ⟨"1700", "Студентски град", "София-град"⟩,
   ⟨"2700", "Благоевград", "Благоевград"⟩,
   ⟨"4000", "Пловдив", "Пловдив"⟩,
   ⟨"5000", "Велико Търново", "Велико Търново"⟩,
   ⟨"6000", "Стара Загора", "Стара Загора"⟩,
   ⟨"7000", "Русе", "Русе"⟩,
   ⟨"8000", "Бургас", "Бургас"⟩,
   ⟨"9000", "Варна", "Варна"⟩]

def addressFor (postalCode : String) : Option FormValues :=
  (addresses.find? fun address => address.postalCode == postalCode).map fun address =>
    Keyed.ofList [("city", .text address.city), ("oblast", .text address.oblast),
      ("country", .text "България")]

structure Company where
  number : String
  name : String
  address : String
  registered : String

def companies : List Company :=
  [⟨"831600946", "Софтуерна Компания ООД", "бул. Витоша 100, София 1000", "2015-03-15"⟩,
   ⟨"175188113", "Технологии България АД", "ул. Шипка 34, Пловдив 4000", "2010-08-22"⟩,
   ⟨"200950412", "Търговска Фирма ЕООД", "ул. Преслав 15, Варна 9000", "2018-11-30"⟩,
   ⟨"1234567890123", "Голяма Компания с БУЛСТАТ", "бул. България 1, Бургас 8000",
    "2005-01-10"⟩]

def companyFor (number : String) : Option FormValues :=
  (companies.find? fun company => company.number == number).map fun company =>
    Keyed.ofList [("companyName", .text company.name),
      ("companyAddress", .text company.address),
      ("registrationDate", .text company.registered)]

section Documents

def digitsOf (number : String) : List Nat :=
  number.toList.map fun char => char.toNat - 48

/-- Exactly `count` ASCII digits. -/
def isDigits (count : Nat) (number : String) : Bool :=
  number.length == count && number.toList.all Char.isDigit

def personalWeights : List Nat := [2, 4, 8, 5, 10, 9, 7, 3, 6]

/-- The last digit is the weighted sum of the others modulo eleven, with ten written as zero. -/
def isPersonalNumber (number : String) : Bool :=
  let digits := digitsOf number
  let sum := (digits.zip personalWeights).foldl (fun sum pair => sum + pair.1 * pair.2) 0
  isDigits 10 number && digits[9]? == some (sum % 11 % 10)

def documentVerdict (type number : String) : Bool × String :=
  if type = "EGN" then
    let valid := isPersonalNumber number
    (valid, if valid then "ЕГН е валидно" else "ЕГН трябва да е точно 10 цифри и да е валидно")
  else if type = "ID_CARD" then
    let valid := isDigits 9 number
    (valid, if valid then "Номерът на лична карта е валиден"
      else "Номерът на лична карта трябва да е 9 цифри")
  else if type = "PASSPORT" then
    let valid := isDigits 9 number
    (valid, if valid then "Номерът на паспорта е валиден"
      else "Номерът на паспорта трябва да е 9 цифри")
  else if type = "EIK" then
    let valid := isDigits 9 number || isDigits 13 number
    (valid, if valid then "ЕИК/БУЛСТАТ е валиден"
      else "ЕИК трябва да е 9 цифри, БУЛСТАТ - 13 цифри")
  else (false, "Невалиден документ")

def documentCheck (type number : String) : FormValues :=
  let (valid, message) := documentVerdict type number
  Keyed.ofList [("isValid", .flag valid), ("message", .text message)]

end Documents

end FormEngine.Lookup
