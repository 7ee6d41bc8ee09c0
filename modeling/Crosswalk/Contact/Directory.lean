import Crosswalk.Contact.Email
import Crosswalk.Contact.Phone
import Crosswalk.Value.Convert

/-!
Which telephone numbers and mail addresses there are.

The regions of the world change their numbers, and domains come and go. So the checks of a value take
what is known of them as a directory.
-/

namespace Crosswalk.Contact

structure Directory where
  /-- Whether a text is a telephone number, read in a region. -/
  phone : List Char → Value → Except Fault Bool
  /-- Whether a text is a mail address. -/
  email : List Char → Bool

namespace Directory

/-- A directory of the regions whose plans are listed. -/
def listed : Directory where
  phone
    | cs, .text region => return isPhone cs (some region)
    | cs, other =>
      match other.unhashable? with
      | some f => throw f
      | none => return isPhone cs none
  email := isEmail

end Directory

end Crosswalk.Contact
