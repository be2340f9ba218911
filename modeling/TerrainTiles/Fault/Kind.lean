/-!
# Kinds of faults

Faults come from files and sockets, from the HTTP and the FTP protocol, from
archives, and from the values a request is made of. The families below are what
callers act on: whether a fault is one of the operating system's, whether it
means that a host cannot be reached, and whether an HTTP transfer is worth
another attempt.
-/

namespace TerrainTiles

inductive HttpKind where
  | request
  | connection
  | proxy
  | tls
  | timeout
  | connectTimeout
  | readTimeout
  | status
  | urlRequired
  | tooManyRedirects
  | missingSchema
  | invalidSchema
  | invalidUrl
  | invalidProxyUrl
  | invalidHeader
  | invalidJson
  | chunkedEncoding
  | contentDecoding
  | streamConsumed
  | retries
  | unrewindableBody
  deriving DecidableEq, Repr

inductive Kind where
  | os
  | permission
  | notFound
  | process
  | interrupted
  | childProcess
  | blocking
  | occupied
  | notDirectory
  | isDirectory
  | brokenPipe
  | connection
  | connectionAborted
  | connectionReset
  | connectionRefused
  | timeout
  | nameLookup
  | hostLookup
  | http (kind : HttpKind)
  | ftp
  | ftpPermanent
  | ftpTemporary
  | ftpReply
  | ftpProtocol
  | endOfInput
  | runtime
  | notImplemented
  | value
  | key
  | index
  | attribute
  | type
  | overflow
  | badArchive
  | malformedArchive
  | acquisition
  | notInvertible
  deriving DecidableEq, Repr

/-- A lost connection or a time-out is worth another attempt. -/
def HttpKind.isTransient : HttpKind → Bool
  | connection | proxy | tls | timeout | connectTimeout | readTimeout => true
  | _ => false

namespace Kind

def isTransient : Kind → Bool
  | http kind => kind.isTransient
  | _ => false

/-- The operating system's faults, which include all of HTTP's and an archive
without its entry. -/
def isOS : Kind → Bool
  | os | permission | notFound | process | interrupted | childProcess | blocking | occupied
  | notDirectory | isDirectory | brokenPipe | connection | connectionAborted | connectionReset
  | connectionRefused | timeout | nameLookup | hostLookup | http _ | malformedArchive => true
  | _ => false

/-- Faults of a socket whatever their number. -/
def isSocket : Kind → Bool
  | brokenPipe | connection | connectionAborted | connectionReset | connectionRefused
  | timeout | nameLookup | hostLookup => true
  | _ => false

/-- What any call on an FTP connection may fail with. -/
def isFtp : Kind → Bool
  | ftp | ftpPermanent | ftpTemporary | ftpReply | ftpProtocol | endOfInput => true
  | kind => kind.isOS

/-- Failures of a transfer that leave the FTP connection usable. -/
def isFtpProtocol : Kind → Bool
  | ftpTemporary | ftpReply | ftpProtocol | endOfInput => true
  | _ => false

/-- The kind that an operating system's error number stands for. -/
def ofErrorNumber (number : Int) : Kind :=
  if number = 1 ∨ number = 13 then permission
  else if number = 2 then notFound
  else if number = 3 then process
  else if number = 4 then interrupted
  else if number = 10 then childProcess
  else if number = 11 ∨ number = 114 ∨ number = 115 then blocking
  else if number = 17 then occupied
  else if number = 20 then notDirectory
  else if number = 21 then isDirectory
  else if number = 32 ∨ number = 108 then brokenPipe
  else if number = 103 then connectionAborted
  else if number = 104 then connectionReset
  else if number = 110 then timeout
  else if number = 111 then connectionRefused
  else os

/-- A lost network or host: ENETDOWN, ENETUNREACH, ENETRESET, EHOSTDOWN and EHOSTUNREACH. -/
def isUnreachableNumber (number : Int) : Bool :=
  [100, 101, 102, 112, 113].contains number

end Kind

end TerrainTiles
