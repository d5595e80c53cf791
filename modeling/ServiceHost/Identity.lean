/-
  ServiceHost.Identity — who is calling: a role and a name within it.

  A caller without a usable client certificate is a guest. By default a certificate's
  organizational unit is the role and its common name the name; a missing name falls
  back to the whole subject, and a missing role to the name.
-/

namespace ServiceHost

structure Identity where
  role : String
  name : String
  deriving DecidableEq, Repr

/-- What the host needs of a certificate. -/
structure CertificateInfo where
  /-- The whole subject name. -/
  subject : String
  commonName : Option String
  organizationalUnit : Option String
  /-- Expiry in seconds since the epoch. -/
  notAfter : Int
  deriving DecidableEq, Repr

namespace Identity

def guestRole : String := "guest"

def guest (name : String) : Identity := ⟨guestRole, name⟩

def isGuest (i : Identity) : Bool := i.role = guestRole

def ofCertificate (c : CertificateInfo) : Identity :=
  let name := c.commonName.getD c.subject
  ⟨c.organizationalUnit.getD name, name⟩

def text (i : Identity) : String := i.role ++ "/" ++ i.name

end Identity

abbrev IdentityMapper := CertificateInfo → Identity

namespace CertificateInfo

def secondsPerDay : Int := 86400

def nanosPerSecond : Int := 1000000000

/--
  Whole days from `now` to expiry, cut toward zero. `now` is in nanoseconds from the
  epoch, and is itself cut toward the epoch to whole seconds first.
-/
def daysLeft (c : CertificateInfo) (now : Int) : Int :=
  Int.tdiv (c.notAfter - Int.tdiv now nanosPerSecond) secondsPerDay

end CertificateInfo

end ServiceHost
