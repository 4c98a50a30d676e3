-- The questions to the credential store, and what each is answered with.
import SignIn.Account.Basic
import SignIn.Error

namespace SignIn.Store

/-- A question to the store of accounts, refresh tokens and role permissions. -/
inductive Request
  /-- Stores an account and answers its id. -/
  | createUser (user : NewUser)
  | findUser (id : Int)
  | findCredentials (email : String)
  | findByPhone (phone : String)
  | emailExists (email : String)
  /-- Marks an account deleted. Answers whether there was one. -/
  | softDelete (id : Int)
  /-- The names that are granted to a role, in order. -/
  | permissionsOf (role : Int)
  | createToken (userId : Int) (token : String) (expiresAt : Time.Instant)
  | findToken (token : String)
  /-- Revokes the old token and stores the new one as one conditional write. Answers whether it was
  done: the old token must be the user's and active. -/
  | rotateToken (userId : Int) (old new : String) (expiresAt : Time.Instant)
  /-- Revokes a token. Answers whether there was one to revoke. -/
  | revokeToken (token : String)
  /-- Revokes all tokens of a user. Answers how many there were to revoke. -/
  | revokeAll (userId : Int)
  /-- Deletes the records whose token was revoked or over longer ago than the duration. -/
  | purge (olderThan : Time.Duration)

/-- What a question is answered with. -/
def Request.Answer : Request → Type
  | .createUser _ => Int
  | .findUser _ => Option User
  | .findCredentials _ => Option Credentials
  | .findByPhone _ => Option User
  | .emailExists _ => Bool
  | .softDelete _ => Bool
  | .permissionsOf _ => List String
  | .createToken _ _ _ => Unit
  | .findToken _ => Option RefreshRecord
  | .rotateToken _ _ _ _ => Bool
  | .revokeToken _ => Bool
  | .revokeAll _ => Nat
  | .purge _ => Nat

/-- The name of the question. -/
def Request.name : Request → String
  | .createUser _ => "create_user"
  | .findUser _ => "find_user_by_id"
  | .findCredentials _ => "find_user_by_email"
  | .findByPhone _ => "find_user_by_phone"
  | .emailExists _ => "user_exists_by_email"
  | .softDelete _ => "soft_delete_user"
  | .permissionsOf _ => "find_permissions_by_role"
  | .createToken _ _ _ => "create_refresh_token"
  | .findToken _ => "find_refresh_token"
  | .rotateToken _ _ _ _ => "rotate_refresh_token"
  | .revokeToken _ => "revoke_refresh_token"
  | .revokeAll _ => "revoke_all_refresh_tokens"
  | .purge _ => "purge_refresh_tokens"

end SignIn.Store
