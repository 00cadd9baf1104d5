/-
  Gatehouse/MySql/Schema.lean --- the tables.
-/

set_option autoImplicit false

namespace Gatehouse.MySql

/-- The statement that makes the tables of users, of pending credentials and of the
outbox. -/
def schema : String :=
  " ".intercalate
    ["CREATE TABLE IF NOT EXISTS users (",
     "id CHAR(36) NOT NULL PRIMARY KEY,",
     "name VARCHAR(255) NOT NULL,",
     "email VARCHAR(255) NOT NULL,",
     "password_hash VARCHAR(255) NOT NULL,",
     "is_active BOOLEAN NOT NULL DEFAULT FALSE,",
     "created_at TIMESTAMP NOT NULL DEFAULT CURRENT_TIMESTAMP,",
     "UNIQUE KEY uq_users_email (email)",
     ");",
     "CREATE TABLE IF NOT EXISTS user_activations (",
     "token VARCHAR(64) NOT NULL PRIMARY KEY,",
     "user_id CHAR(36) NOT NULL,",
     "created_at TIMESTAMP NOT NULL DEFAULT CURRENT_TIMESTAMP,",
     "CONSTRAINT fk_user_activations_user FOREIGN KEY (user_id)",
     "REFERENCES users (id) ON DELETE CASCADE",
     ");",
     "CREATE TABLE IF NOT EXISTS password_recoveries (",
     "token VARCHAR(64) NOT NULL PRIMARY KEY,",
     "user_id CHAR(36) NOT NULL,",
     "created_at TIMESTAMP NOT NULL DEFAULT CURRENT_TIMESTAMP,",
     "CONSTRAINT fk_password_recoveries_user FOREIGN KEY (user_id)",
     "REFERENCES users (id) ON DELETE CASCADE",
     ");",
     "CREATE TABLE IF NOT EXISTS mails (",
     "id CHAR(36) NOT NULL PRIMARY KEY,",
     "address VARCHAR(255) NOT NULL,",
     "subject VARCHAR(255) NOT NULL,",
     "content TEXT NOT NULL,",
     "created_at TIMESTAMP(3) NOT NULL DEFAULT CURRENT_TIMESTAMP(3),",
     "mailed_at TIMESTAMP NULL DEFAULT NULL,",
     "KEY idx_mails_pending (mailed_at, created_at)",
     ");"]

end Gatehouse.MySql
