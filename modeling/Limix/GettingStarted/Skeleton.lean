import Limix.Workspace.Contribution

/-!
# The skeleton content

The four templates of `skeleton-content`, line by line, with the placeholder `{folderName}` where the project
name goes.
-/

namespace Limix.GettingStarted

/-- `Anchor.toml` of the project. -/
def anchorTomlContent : String :=
  "\n".intercalate
    ["[programs.localnet]",
    "\x7bfolderName\x7d = \"replace_with_actual_program_id\"",
    "",
    "[provider]",
    "cluster = \"localnet\"",
    "wallet = \"~/.config/solana/id.json\"",
    "",
    "[scripts]",
    "test = \"anchor test --skip-build\"",
    "",
    "[idl]",
    "format = \"json\"",
    ""]

/-- `Cargo.toml` of the program. -/
def cargoTomlContent : String :=
  "\n".intercalate
    ["[package]",
    "name = \"\x7bfolderName\x7d\"",
    "version = \"0.1.0\"",
    "edition = \"2021\"",
    "",
    "[dependencies]",
    "anchor-lang = \"0.28.0\"",
    "solana-program = \"1.11.0\"",
    "",
    "[lib]",
    "crate-type = [\"cdylib\", \"lib\"]",
    "",
    "[features]",
    "no-entrypoint = []",
    ""]

/-- The program, `program/<name>.rs`. -/
def programRsContent : String :=
  "\n".intercalate
    ["use anchor_lang::prelude::*;",
    "",
    "declare_id!(\"replace_with_actual_program_id\");",
    "",
    "#[program]",
    "pub mod \x7bfolderName\x7d \x7b",
    "    use super::*;",
    "",
    "    pub fn initialize(ctx: Context<Initialize>) -> Result<()> \x7b",
    "        let base_account = &mut ctx.accounts.base_account;",
    "        base_account.data = 0;",
    "        Ok(())",
    "    \x7d",
    "",
    "    pub fn increment(ctx: Context<Increment>) -> Result<()> \x7b",
    "        let base_account = &mut ctx.accounts.base_account;",
    "        base_account.data += 1;",
    "        Ok(())",
    "    \x7d",
    "\x7d",
    "",
    "#[derive(Accounts)]",
    "pub struct Initialize<\x27info> \x7b",
    "    #[account(init, payer = user, space = 8 + 8)]",
    "    pub base_account: Account<\x27info, BaseAccount>,",
    "    #[account(mut)]",
    "    pub user: Signer<\x27info>,",
    "    pub system_program: Program<\x27info, System>,",
    "\x7d",
    "",
    "#[derive(Accounts)]",
    "pub struct Increment<\x27info> \x7b",
    "    #[account(mut)]",
    "    pub base_account: Account<\x27info, BaseAccount>,",
    "\x7d",
    "",
    "#[account]",
    "pub struct BaseAccount \x7b",
    "    pub data: u64;",
    "\x7d",
    ""]

/-- The test, `tests/<name>.ts`. -/
def testTsContent : String :=
  "\n".intercalate
    ["import * as anchor from \"@coral-xyz/anchor\";",
    "import \x7b Program \x7d from \"@coral-xyz/anchor\";",
    "import \x7b \x7bfolderName\x7d \x7d from \"../target/types/\x7bfolderName\x7d\";",
    "import \x7b assert \x7d from \"chai\";",
    "",
    "describe(\"\x7bfolderName\x7d program\", () => \x7b",
    "  const provider = anchor.AnchorProvider.env();",
    "  anchor.setProvider(provider);",
    "  const program = anchor.workspace.\x7bfolderName\x7d as Program<\x7bfolderName\x7d>;",
    "",
    "  let baseAccount = anchor.web3.Keypair.generate();",
    "",
    "  it(\"Initializes the account\", async () => \x7b",
    "    await program.methods.initialize().accounts(\x7b",
    "      baseAccount: baseAccount.publicKey,",
    "      user: provider.wallet.publicKey,",
    "      systemProgram: anchor.web3.SystemProgram.programId,",
    "    \x7d).signers([baseAccount]).rpc();",
    "",
    "    const account = await program.account.baseAccount.fetch(baseAccount.publicKey);",
    "    assert.equal(account.data.toNumber(), 0);",
    "  \x7d);",
    "",
    "  it(\"Increments the account data\", async () => \x7b",
    "    await program.methods.increment().accounts(\x7b",
    "      baseAccount: baseAccount.publicKey,",
    "    \x7d).rpc();",
    "",
    "    const account = await program.account.baseAccount.fetch(baseAccount.publicKey);",
    "    assert.equal(account.data.toNumber(), 1);",
    "  \x7d);",
    "\x7d);",
    ""]

end Limix.GettingStarted
