/-
What is taken as given. Four questions are answered by tables and grammars
that have nothing to do with controllers: what the name of a domain is in
ASCII, which text the bytes of a body are, which files hold certificates,
and which texts are patterns.

Each is a class with one function. What is said about the library holds
whatever these functions are; where it rests on how they behave, it says so.
-/

namespace Sdwan

/-- How the name of a domain is brought into its one form, as the standard
for internationalised names lays it down. -/
class Url.Idna where
  /-- The form in ASCII. Nothing when the text is not the name of a domain,
  or when a character stands in it that no URL has there. -/
  toAscii : List Char → Option (List Char)

/-- How the bytes of a body are read as a text. -/
class Http.Charsets where
  /-- The text of the bytes. The header with the media type may name an
  encoding, and so may a mark at the start of the bytes. -/
  decode : (mediaType : Option String) → List UInt8 → String

/-- Which files hold certificates that can be trusted. -/
class Tls.Certificates where
  /-- Why a file holds none; nothing when it does. -/
  fault? : List UInt8 → Option String

/-- Which texts are patterns, that is regular expressions that can be put to
use. -/
class Patterns where
  /-- Why a text is no pattern; nothing when it is one. -/
  error? : String → Option String

/-- All four together. -/
class Platform extends Url.Idna, Http.Charsets, Tls.Certificates, Patterns

end Sdwan
