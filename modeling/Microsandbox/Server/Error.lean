import Mathlib.Logic.Basic

namespace Microsandbox.Server

inductive AuthenticationError where
  | invalidCredentials (details : String)
  | clientError (details : String)
  | emailNotConfirmed
  | tooManyAttempts
  | invalidToken (details : String)
  | emailAlreadyExists
  | useGoogleLogin
  | useGithubLogin
  | useEmailLogin
  | emailNotVerified
  deriving DecidableEq, Repr

inductive ValidationError where
  | invalidInput (details : String)
  | passwordTooWeak (details : String)
  | emailInvalid (details : String)
  | invalidConfirmationToken
  deriving DecidableEq, Repr

inductive AuthorizationError where
  | accessDenied (details : String)
  | insufficientPermissions (details : String)
  deriving DecidableEq, Repr

inductive ServerError where
  | authentication (e : AuthenticationError)
  | authorizationError (e : AuthorizationError)
  | notFound (details : String)
  | databaseError (details : String)
  | validationError (e : ValidationError)
  | internalError (details : String)
  deriving DecidableEq, Repr

inductive ErrorCode where
  | invalidCredentials
  | emailNotConfirmed
  | tooManyLoginAttempts
  | invalidToken
  | emailAlreadyExists
  | useGoogleLogin
  | useGithubLogin
  | useEmailLogin
  | emailNotVerified
  | invalidInput
  | passwordTooWeak
  | emailInvalid
  | invalidOrExpiredConfirmationToken
  | accessDenied
  | insufficientPermissions
  | resourceNotFound
  | databaseError
  | internalServerError
  deriving DecidableEq, Repr

def ErrorCode.toU32 : ErrorCode → Nat
  | .invalidCredentials => 1001
  | .emailNotConfirmed => 1002
  | .tooManyLoginAttempts => 1003
  | .invalidToken => 1004
  | .emailAlreadyExists => 1007
  | .useGoogleLogin => 1008
  | .useGithubLogin => 1009
  | .useEmailLogin => 1010
  | .emailNotVerified => 1011
  | .invalidInput => 2001
  | .passwordTooWeak => 2002
  | .emailInvalid => 2003
  | .invalidOrExpiredConfirmationToken => 2004
  | .accessDenied => 3001
  | .insufficientPermissions => 3002
  | .resourceNotFound => 4001
  | .databaseError => 5001
  | .internalServerError => 5002

structure ErrorResponse where
  error : String
  code : Option Nat
  deriving DecidableEq, Repr

def AuthenticationError.intoResponse : AuthenticationError → Nat × ErrorResponse
  | .invalidCredentials _ => (401, ⟨"Invalid credentials", some ErrorCode.invalidCredentials.toU32⟩)
  | .clientError details => (401, ⟨details, none⟩)
  | .emailNotConfirmed => (401, ⟨"Email not confirmed", some ErrorCode.emailNotConfirmed.toU32⟩)
  | .tooManyAttempts =>
      (429, ⟨"Too many login attempts, please try again later",
        some ErrorCode.tooManyLoginAttempts.toU32⟩)
  | .invalidToken _ => (401, ⟨"Invalid or expired token", some ErrorCode.invalidToken.toU32⟩)
  | .emailAlreadyExists =>
      (409, ⟨"Email already registered", some ErrorCode.emailAlreadyExists.toU32⟩)
  | .useGoogleLogin =>
      (401, ⟨"This email is registered with Google. Please use 'Sign in with Google' instead.",
        some ErrorCode.useGoogleLogin.toU32⟩)
  | .useGithubLogin =>
      (401, ⟨"This email is registered with GitHub. Please use 'Sign in with GitHub' instead.",
        some ErrorCode.useGithubLogin.toU32⟩)
  | .useEmailLogin =>
      (401, ⟨"This email is already registered. Please login with your password.",
        some ErrorCode.useEmailLogin.toU32⟩)
  | .emailNotVerified =>
      (401, ⟨"Email not verified with the provider", some ErrorCode.emailNotVerified.toU32⟩)

def ServerError.intoResponse : ServerError → Nat × ErrorResponse
  | .authentication e => e.intoResponse
  | .authorizationError (.accessDenied _) =>
      (403, ⟨"Access denied", some ErrorCode.accessDenied.toU32⟩)
  | .authorizationError (.insufficientPermissions _) =>
      (403, ⟨"Insufficient permissions", some ErrorCode.insufficientPermissions.toU32⟩)
  | .notFound details => (404, ⟨details, some ErrorCode.resourceNotFound.toU32⟩)
  | .databaseError _ => (500, ⟨"Internal server error", some ErrorCode.databaseError.toU32⟩)
  | .validationError (.invalidInput details) => (400, ⟨details, some ErrorCode.invalidInput.toU32⟩)
  | .validationError (.passwordTooWeak details) =>
      (400, ⟨details, some ErrorCode.passwordTooWeak.toU32⟩)
  | .validationError (.emailInvalid details) => (400, ⟨details, some ErrorCode.emailInvalid.toU32⟩)
  | .validationError .invalidConfirmationToken =>
      (400, ⟨"Invalid or expired confirmation token",
        some ErrorCode.invalidOrExpiredConfirmationToken.toU32⟩)
  | .internalError _ =>
      (500, ⟨"Internal server error", some ErrorCode.internalServerError.toU32⟩)

end Microsandbox.Server
