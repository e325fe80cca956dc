import DropletClient.Text.Blank
import DropletClient.Text.DecimalDigit

namespace DropletClient

/-!
# Operating systems

The provider tells the distribution of an image, and all else only in its name,
as in `Ubuntu 12.10 x64`. The version is the first number in the name, and the
architecture is the first `x` with two digits behind it.
-/

/-- The families of operating systems. -/
inductive OsFamily where
  | arch
  | centOs
  | coreOs
  | debian
  | fedora
  | freeBsd
  | ubuntu
  | unrecognized
  deriving Repr, DecidableEq

namespace OsFamily

/-- The display name of a family. -/
def displayName : OsFamily → String
  | .arch => "Arch Linux"
  | .centOs => "CentOS"
  | .coreOs => "CoreOS"
  | .debian => "Debian"
  | .fedora => "Fedora"
  | .freeBsd => "FreeBSD"
  | .ubuntu => "Ubuntu"
  | .unrecognized => "unrecognized"

/-- The family of a lower-case label. -/
def ofLabel : String → OsFamily
  | "arch" => .arch
  | "arch linux" => .arch
  | "centos" => .centOs
  | "coreos" => .coreOs
  | "debian" => .debian
  | "fedora" => .fedora
  | "freebsd" => .freeBsd
  | "ubuntu" => .ubuntu
  | _ => .unrecognized

/--
The family of a distribution, whatever its case and the white space around it.
-/
def ofDistribution (distribution : String) : OsFamily :=
  ofLabel (String.ofList ((Text.trim distribution.toList).map Char.toLower))

end OsFamily

/-- What is known about the operating system of an image. -/
structure OperatingSystem where
  family : OsFamily
  version : String
  arch : String
  description : String
  is64Bit : Bool
  deriving Repr, DecidableEq

namespace OperatingSystem

/--
The digits in front of a text that begins with the fraction of a version number.
-/
def minorVersion : List Char → List Char
  | '.' :: rest =>
      let digits := rest.takeWhile Text.isDecimalDigit
      if digits.isEmpty then [] else '.' :: digits
  | _ => []

/-- The first number of a name, with the fraction behind it if there is one. -/
def firstVersion (name : List Char) : List Char :=
  let start := name.dropWhile fun character => !Text.isDecimalDigit character
  let rest := start.dropWhile Text.isDecimalDigit
  start.takeWhile Text.isDecimalDigit ++ minorVersion rest

/-- The first `x` of a name with two digits behind it, and those digits. -/
def firstArchitecture : List Char → List Char
  | 'x' :: first :: second :: rest =>
      if Text.isDecimalDigit first &&
        Text.isDecimalDigit second then ['x', first, second]
      else firstArchitecture (first :: second :: rest)
  | _ :: rest => firstArchitecture rest
  | [] => []

/-- The architecture that has 64 bits. -/
def architecture64 : List Char :=
  ['x', '6', '4']

/-- The operating system of an image with a distribution and a name. -/
def ofImageNames (distribution name : String) : OperatingSystem where
  family := OsFamily.ofDistribution distribution
  version := String.ofList (firstVersion name.toList)
  arch := String.ofList (firstArchitecture name.toList)
  description := name
  is64Bit := firstArchitecture name.toList == architecture64

end OperatingSystem

end DropletClient
