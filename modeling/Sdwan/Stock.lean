/-
What the library is run with: a stand-in for each of the four things that are
taken as given. The theory rests on none of them; they serve to run it, and to
show that what is asked of the real ones can be had.
-/
import Sdwan.Stock.Certificates
import Sdwan.Stock.Charsets
import Sdwan.Stock.Names
import Sdwan.Stock.Patterns

namespace Sdwan

/-- The four stand-ins together. -/
@[reducible] def Stock.platform : Platform where
  toIdna := names
  toCharsets := charsets
  toCertificates := certificates
  toPatterns := patterns

end Sdwan
