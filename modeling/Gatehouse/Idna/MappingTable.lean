/-
  Gatehouse/Idna/MappingTable.lean --- what each character of a domain name becomes.

  Rows for the characters from U+0080 on, in order and without gaps, separated by
  semicolons; the numbers of a row are written to base 36.  A row begins with its
  kind and the number of characters that it covers.

  * kind 0: each character stands for itself;
  * kind 1: each character is refused;
  * kind 2: each character is left out;
  * kind 3: each character becomes the one at a fixed distance, which follows;
  * kind 4: the same for every other character, beginning with the first, and the
    ones between stand for themselves;
  * kind 5: each character becomes the text that follows.

  Main definition: `Idna.mappingText`.
-/

set_option autoImplicit false

namespace Gatehouse.Idna

/-- The rows of the mapping. -/
def mappingText : List String :=
  ["1,w;3,1,-3k;0,7;5,1,w,lk;0,1;3,1,-21;0,2;2,1;0,1;5,1,w,lg;0,2;3,2,-3k;5,1,w,ld;3,1,lj;0,",
   "2;5,1,w,mf;3,1,-3s;3,1,-23;0,1;5,1,1d,6dg,1g;5,1,1d,6dg,1e;5,1,1f,6dg,1g;0,1;3,n,w;0,1;3",
   ",7,w;0,x;4,1c,1;5,1,2x,lj;0,1;5,2,2x,2y;4,4,1;0,1;4,6,1;5,2,30,53;4,8,1;5,1,jg,32;4,1a,1",
   ";3,1,-3d;4,6,1;3,1,-7g;0,1;3,1,5u;4,4,1;3,1,5q;3,1,1;0,1;3,2,5p;3,1,1;0,2;3,1,27;3,1,5m;",
   "3,1,5n;3,1,1;0,1;3,1,5p;3,1,5r;0,1;3,1,5v;3,1,5t;3,1,1;0,3;3,1,5v;3,1,5x;0,1;3,1,5y;4,6,",
   "1;3,1,62;3,1,1;0,1;3,1,62;0,2;3,1,1;0,1;3,1,62;3,1,1;0,1;3,2,61;4,4,1;3,1,63;3,1,1;0,3;3",
   ",1,1;0,7;5,3,2s,am;5,3,30,2y;5,3,32,2y;4,g,1;0,1;4,i,1;0,1;5,3,2s,3e;3,1,1;0,1;3,1,-2p;3",
   ",1,-1k;4,14,1;3,1,-3m;0,1;4,i,1;0,6;3,1,8bv;3,1,1;0,1;3,1,-4j;3,1,8bs;0,2;3,1,1;0,1;3,1,",
   "-5f;3,1,1x;3,1,1z;4,a,1;0,2o;3,1,-g8;3,1,-23;3,1,-g8;3,1,-g1;3,1,-1n;3,1,-1m;3,1,-1h;3,1",
   ",-g0;3,1,-fz;0,v;5,1,w,li;5,1,w,lj;5,1,w,lm;5,1,w,mg;5,1,w,lf;5,1,w,ln;0,2;3,1,-3h;3,1,-",
   "hh;3,1,-hb;3,1,-h7;3,1,-27;0,2j;3,2,-1s;0,1;3,1,-1c;5,1,lk,ld;3,1,38;0,9;2,1;0,w;4,4,1;3",
   ",1,-57;0,1;3,1,1;0,1;1,2;5,1,w,qh;0,3;3,1,-n7;3,1,38;1,4;5,1,w,ld;5,1,w,lk,ld;3,1,12;3,1",
   ",-k0;3,3,11;1,1;3,1,1s;1,1;3,2,1r;0,1;3,h,w;1,1;3,9,w;0,z;3,1,8;3,1,-u;3,1,-p;3,1,-d;3,1",
   ",-6;3,1,-9;3,1,-f;3,1,-m;0,1;4,o,1;3,1,-1i;3,1,-1c;3,1,-1b;0,1;3,1,-1o;3,1,-1s;0,1;3,1,1",
   ";0,1;3,1,-1i;3,1,1;0,2;3,3,-3m;3,g,28;3,w,w;0,1c;4,y,1;0,8;4,1i,1;3,1,f;4,e,1;0,1;4,2o,1",
   ";1,1;3,12,1c;1,2;0,1a;5,1,12d,136;0,3;3,1,-w;3,1,-n;0,3;1,1;0,1j;1,8;0,r;1,4;0,6;1,h;0,m",
   ";1,1;0,2g;5,1,17r,19w;5,1,18o,19w;5,1,1c7,19w;5,1,18q,19w;0,2s;1,1;0,1c;1,2;0,1n;1,2;0,2",
   "t;1,e;0,1n;1,2;0,1d;1,2;0,f;1,1;0,s;1,2;0,1;1,1;0,b;1,5;0,w;1,7;0,23;1,1;0,39;5,1,1sl,1t",
   "o;5,1,1sm,1to;5,1,1sn,1to;5,1,1ss,1to;5,1,1sx,1to;5,1,1sy,1to;5,1,1t7,1to;5,1,1tb,1to;0,",
   "10;1,1;0,8;1,2;0,2;1,2;0,m;1,1;0,7;1,1;0,1;1,3;0,4;1,2;0,9;1,2;0,2;1,2;0,4;1,8;0,1;1,4;5",
   ",1,1wh,1x8;5,1,1wi,1x8;1,1;5,1,1wv,1x8;0,4;1,2;0,p;1,2;0,3;1,1;0,6;1,4;0,2;1,2;0,m;1,1;0",
   ",7;1,1;0,1;5,1,20i,20s;1,1;0,1;5,1,20o,20s;1,1;0,2;1,2;0,1;1,1;0,5;1,4;0,2;1,2;0,3;1,3;0",
   ",1;1,7;5,1,1zq,20s;5,1,1zr,20s;5,1,1zw,20s;0,1;1,1;5,1,20b,20s;1,7;0,h;1,a;0,3;1,1;0,9;1",
   ",1;0,3;1,1;0,m;1,1;0,7;1,1;0,2;1,1;0,5;1,2;0,a;1,1;0,3;1,1;0,3;1,2;0,1;1,f;0,4;1,2;0,c;1",
   ",7;0,7;1,1;0,3;1,1;0,8;1,2;0,2;1,2;0,m;1,1;0,7;1,1;0,2;1,1;0,5;1,2;0,9;1,2;0,2;1,2;0,3;1",
   ",7;0,3;1,4;5,1,275,27w;5,1,276,27w;1,1;0,5;1,2;0,i;1,a;0,2;1,1;0,6;1,3;0,3;1,1;0,4;1,3;0",
   ",2;1,1;0,1;1,1;0,2;1,3;0,2;1,3;0,3;1,3;0,c;1,4;0,5;1,3;0,3;1,1;0,4;1,2;0,1;1,6;0,1;1,e;0",
   ",l;1,5;0,d;1,1;0,3;1,1;0,n;1,1;0,g;1,2;0,9;1,1;0,3;1,1;0,4;1,7;0,2;1,1;0,3;1,1;0,2;1,2;0",
   ",4;1,2;0,a;1,7;0,m;1,1;0,3;1,1;0,n;1,1;0,a;1,1;0,5;1,2;0,9;1,1;0,3;1,1;0,4;1,7;0,2;1,5;0",
   ",3;1,1;0,4;1,2;0,a;1,1;0,3;1,c;0,d;1,1;0,3;1,1;0,1f;1,1;0,3;1,1;0,6;1,4;0,g;1,2;0,q;1,1;",
   "0,3;1,1;0,i;1,3;0,o;1,1;0,9;1,1;0,1;1,2;0,7;1,3;0,1;1,4;0,6;1,1;0,1;1,1;0,8;1,6;0,a;1,2;",
   "0,3;1,c;0,1e;5,1,2tp,2sy;0,7;1,4;0,t;1,11;0,2;1,1;0,1;1,1;0,5;1,1;0,o;1,1;0,1;1,1;0,c;5,",
   "1,2x9,2wi;0,a;1,2;0,5;1,1;0,1;1,1;0,7;1,1;0,a;1,2;5,1,2wb,2vt;5,1,2wb,2w1;0,2;1,w;0,c;3,",
   "1,-1;0,1i;5,1,30i,33r;0,4;1,1;0,4;5,1,30s,33r;0,4;5,1,30x,33r;0,4;5,1,312,33r;0,4;5,1,31",
   "7,33r;0,c;5,1,30g,33p;0,3;1,4;0,2;5,1,31t,31u;0,1;5,1,31t,31w;5,1,33m,328;5,1,33m,31t,32",
   "8;5,1,33n,328;5,1,33n,31t,328;0,7;5,1,31t,328;0,h;5,1,32q,33r;0,4;1,1;0,4;5,1,330,33r;0,",
   "4;5,1,335,33r;0,4;5,1,33a,33r;0,4;5,1,33f,33r;0,c;5,1,32o,33p;0,3;1,1;0,f;1,1;0,d;1,11;0",
   ",4g;3,12,5ls;1,1;3,1,5ls;1,5;3,1,5ls;1,2;0,18;3,1,-w;0,2q;2,2;0,6g;1,1;0,4;1,2;0,7;1,1;0",
   ",1;1,1;0,4;1,2;0,15;1,1;0,4;1,2;0,x;1,1;0,4;1,2;0,7;1,1;0,1;1,1;0,4;1,2;0,f;1,1;0,1l;1,1",
   ";0,4;1,2;0,1v;1,2;0,w;1,3;0,q;1,6;0,2e;1,2;3,6,-8;1,2;0,hs;1,1;0,s;1,3;0,2h;1,7;0,m;1,9;",
   "0,o;1,9;0,k;1,c;0,d;1,1;0,3;1,1;0,2;1,c;0,1g;2,2;0,14;1,2;0,a;1,6;0,a;1,6;0,b;2,5;0,a;1,",
   "6;0,2h;1,7;0,17;1,5;0,1y;1,a;0,v;1,1;0,c;1,4;0,c;1,4;0,1;1,3;0,16;1,2;0,5;1,b;0,18;1,4;0",
   ",q;1,6;0,b;1,3;0,1q;1,2;0,1t;1,1;0,t;1,2;0,b;1,6;0,a;1,6;0,e;1,2;0,1a;1,2;0,c;1,k;0,25;1",
   ",1;0,4m;1,8;0,1o;1,3;0,f;1,3;0,1f;3,1,-4su;3,1,-4st;3,1,-4sk;3,2,-4si;3,1,-4sj;3,1,-4sc;",
   "3,1,-4ro;3,1,r7n;3,1,1;0,1;1,5;3,17,-2bk;1,2;3,3,-2bk;0,8;1,8;0,17;1,5;0,18;3,1,-5or;3,1",
   ",-5l3;3,1,-5os;0,1;3,2,-5os;3,1,-5ed;3,8,-5os;0,1;3,1,-5ot;3,1,-5cq;3,1,-5ou;3,1,-5ot;3,",
   "2,-5os;3,1,-5or;3,1,-5pe;3,2,-5bo;3,1,-1w;3,1,-5ph;3,2,-5pg;3,1,-5bl;3,2,-5bk;3,1,-5pi;0",
   ",1;3,1,-5pg;3,1,-5pf;3,1,-5ja;3,1,-5pf;3,1,-5bz;3,2,-1q;3,1,-5pi;3,2,-5pf;3,1,-1o;3,1,-5",
   "bf;3,1,-5ph;3,1,-1j;3,3,-52j;3,2,-522;3,1,-5q1;3,1,-5pt;3,2,-5pr;3,2,-52s;3,1,-52f;3,2,-",
   "52b;0,d;3,1,-4zf;0,y;3,1,-5e1;3,1,-5rt;3,1,-5e0;3,1,-5ny;3,1,-5dv;3,1,-5ru;3,1,-5du;3,1,",
   "-5dt;3,1,-5dq;3,3,-5do;3,1,-18;3,1,-5cb;3,1,-5do;3,1,-11;3,1,-5cc;3,1,-5dn;3,1,-5dp;3,4,",
   "-5do;3,1,-5dm;3,2,-5dd;3,1,-5je;3,2,-5d9;3,1,-4c;3,2,-5da;3,1,-5s1;3,3,-5d8;3,1,-553;0,1",
   "s;4,46,1;0,4;5,1,2p,ji;3,1,-1m;0,2;3,1,-5vj;0,1;4,2o,1;0,8;3,8,-8;0,6;1,2;3,6,-8;1,2;0,8",
   ";3,8,-8;0,8;3,8,-8;0,6;1,2;3,6,-8;1,2;0,8;1,1;3,1,-8;1,1;3,1,-8;1,1;3,1,-8;1,1;3,1,-8;0,",
   "8;3,8,-8;0,1;3,1,-5hh;0,1;3,1,-5hi;0,1;3,1,-5hj;0,1;3,1,-5hk;0,1;3,1,-5gt;0,1;3,1,-5gu;0",
   ",1;3,1,-5gv;1,2;5,1,64g,qh;5,1,64h,qh;5,1,64i,qh;5,1,64j,qh;5,1,64k,qh;5,1,64l,qh;5,1,64",
   "m,qh;5,1,64n,qh;5,1,64g,qh;5,1,64h,qh;5,1,64i,qh;5,1,64j,qh;5,1,64k,qh;5,1,64l,qh;5,1,64",
   "m,qh;5,1,64n,qh;5,1,65c,qh;5,1,65d,qh;5,1,65e,qh;5,1,65f,qh;5,1,65g,qh;5,1,65h,qh;5,1,65",
   "i,qh;5,1,65j,qh;5,1,65c,qh;5,1,65d,qh;5,1,65e,qh;5,1,65f,qh;5,1,65g,qh;5,1,65h,qh;5,1,65",
   "i,qh;5,1,65j,qh;5,1,674,qh;5,1,675,qh;5,1,676,qh;5,1,677,qh;5,1,678,qh;5,1,679,qh;5,1,67",
   "a,qh;5,1,67b,qh;5,1,674,qh;5,1,675,qh;5,1,676,qh;5,1,677,qh;5,1,678,qh;5,1,679,qh;5,1,67",
   "a,qh;5,1,67b,qh;0,2;5,1,67k,qh;5,1,q9,qh;5,1,q4,qh;1,1;0,1;5,1,69i,qh;3,2,-8;3,1,-22;3,1",
   ",-5jj;5,1,q9,qh;5,1,w,lv;3,1,-5j9;5,1,w,lv;5,1,w,n6;5,1,w,lk,n6;5,1,67o,qh;5,1,qf,qh;5,1",
   ",q6,qh;1,1;0,1;5,1,69y,qh;3,1,-2e;3,1,-5jw;3,1,-2e;3,1,-5jx;5,1,qf,qh;5,1,w,lv,lc;5,1,w,",
   "lv,ld;5,1,w,lv,n6;0,3;3,1,-5kz;1,2;0,2;3,2,-8;3,1,-2s;3,1,-5kc;1,1;5,1,w,lw,lc;5,1,w,lw,",
   "ld;5,1,w,lw,n6;0,3;3,1,-5kj;0,4;3,2,-8;3,1,-34;3,1,-5jy;3,1,-7;5,1,w,lk,lc;5,1,w,lk,ld;3",
   ",1,-68f;1,2;5,1,67w,qh;5,1,qx,qh;5,1,r2,qh;1,1;0,1;5,1,6ba,qh;3,1,-3k;3,1,-5kd;3,1,-3i;3",
   ",1,-5kd;5,1,qx,qh;5,1,w,ld;5,1,w,lw;1,1;5,b,w;2,1;0,2;1,2;0,1;3,1,-1;0,5;5,1,w,mr;0,c;1,",
   "3;0,1;1,7;3,1,-6bz;0,3;5,1,6cy,6cy;5,1,6cy,6cy,6cy;0,1;5,1,6d1,6d1;5,1,6d1,6d1,6d1;0,4;5",
   ",1,x,x;0,1;5,1,w,lh;0,8;5,1,1r,1r;5,1,1r,x;5,1,x,1r;0,d;5,1,6cy,6cy,6cy,6cy;0,7;3,1,-6db",
   ";2,5;1,5;2,6;3,1,-6dc;3,1,-6bs;1,2;3,6,-6dc;3,1,-6dr;3,1,bb;3,1,-6db;3,2,-6dx;3,1,-6c1;3",
   ",a,-6ds;3,1,-6e7;3,1,av;3,1,-6dr;3,2,-6ed;1,1;3,1,-6cv;3,1,-6cs;3,1,-6cj;3,1,-6cb;3,1,-5",
   "yz;3,1,-6ct;3,4,-6cr;3,1,-6cq;3,2,-6co;1,3;0,8;5,1,36,37;0,p;1,e;0,x;1,f;5,1,2p,1b,2r;5,",
   "1,2p,1b,37;3,1,-6fz;5,1,4w,2r;0,1;5,1,2r,1b,33;5,1,2r,1b,39;3,1,-624;0,1;5,1,4w,2u;3,2,-",
   "6g3;5,3,2w;3,1,-6aw;5,2,2x;5,2,30;0,1;3,1,-6g7;5,1,32,33;0,2;3,3,-6g9;5,2,36;0,2;5,1,37,",
   "31;5,1,38,2t,30;5,1,38,31;0,1;3,1,-6ga;0,1;3,1,-5st;0,1;3,1,-6ge;0,1;3,1,-6gv;3,1,-6di;3",
   ",2,-6h6;0,1;5,2,2t;3,1,-6h7;3,1,s;3,1,-6h2;3,1,-6h1;3,4,-5et;3,1,-6hc;0,1;5,1,2u,2p,3c;3",
   ",1,-5to;5,2,qb;3,1,-5tr;3,1,5t;0,4;5,2,2s;3,1,-6hu;3,2,-6hr;0,6;5,1,1d,6dg,1j;5,1,1d,6dg",
   ",1l;5,1,1d,6dg,1d,1c;5,1,1d,6dg,1f;5,1,1e,6dg,1f;5,1,1d,6dg,1h;5,1,1e,6dg,1h;5,1,1f,6dg,",
   "1h;5,1,1g,6dg,1h;5,1,1d,6dg,1i;5,1,1h,6dg,1i;5,1,1d,6dg,1k;5,1,1f,6dg,1k;5,1,1h,6dg,1k;5",
   ",1,1j,6dg,1k;5,1,1d,6dg;3,1,-6if;5,1,2x,2x;5,1,2x,2x,2x;5,1,2x,3a;3,1,-6i6;5,1,3a,2x;5,1",
   ",3a,2x,2x;5,1,3a,2x,2x,2x;5,1,2x,3c;3,1,-6i9;5,1,3c,2x;5,1,3c,2x,2x;3,1,-6io;3,2,-6iy;3,",
   "1,-6iq;3,1,-6iv;5,1,2x,2x;5,1,2x,2x,2x;5,1,2x,3a;3,1,-6im;5,1,3a,2x;5,1,3a,2x,2x;5,1,3a,",
   "2x,2x,2x;5,1,2x,3c;3,1,-6ip;5,1,3c,2x;5,1,3c,2x,2x;3,1,-6j4;3,2,-6je;3,1,-6j6;0,3;3,1,1;",
   "0,5;5,1,1c,6dg,1f;0,2;1,4;0,4c;5,1,6qz,6qz;5,1,6qz,6qz,6qz;0,1;5,1,6r2,6r2;5,1,6r2,6r2,6",
   "r2;0,6w;3,2,2jj;0,73;1,m;0,b;1,l;3,9,-75b;5,1,1d,1c;5,1,1d,1d;5,1,1d,1e;5,1,1d,1f;5,1,1d",
   ",1g;5,1,1d,1h;5,1,1d,1i;5,1,1d,1j;5,1,1d,1k;5,1,1d,1l;5,1,1e,1c;5,1,14,1d,15;5,1,14,1e,1",
   "5;5,1,14,1f,15;5,1,14,1g,15;5,1,14,1h,15;5,1,14,1i,15;5,1,14,1j,15;5,1,14,1k,15;5,1,14,1",
   "l,15;5,1,14,1d,1c,15;5,1,14,1d,1d,15;5,1,14,1d,1e,15;5,1,14,1d,1f,15;5,1,14,1d,1g,15;5,1",
   ",14,1d,1h,15;5,1,14,1d,1i,15;5,1,14,1d,1j,15;5,1,14,1d,1k,15;5,1,14,1d,1l,15;5,1,14,1e,1",
   "c,15;1,k;5,1,14,2p,15;5,1,14,2q,15;5,1,14,2r,15;5,1,14,2s,15;5,1,14,2t,15;5,1,14,2u,15;5",
   ",1,14,2v,15;5,1,14,2w,15;5,1,14,2x,15;5,1,14,2y,15;5,1,14,2z,15;5,1,14,30,15;5,1,14,31,1",
   "5;5,1,14,32,15;5,1,14,33,15;5,1,14,34,15;5,1,14,35,15;5,1,14,36,15;5,1,14,37,15;5,1,14,3",
   "8,15;5,1,14,39,15;5,1,14,3a,15;5,1,14,3b,15;5,1,14,3c,15;5,1,14,3d,15;5,1,14,3e,15;3,q,-",
   "76d;3,q,-773;3,1,-796;0,10h;5,1,6qz,6qz,6qz,6qz;0,2v;5,1,1m,1m,1p;5,1,1p,1p;5,1,1p,1p,1p",
   ";0,2t;5,1,8gt,mw;0,47;1,2;0,3u;3,1c,1c;0,1c;3,1,1;0,1;3,1,-8af;3,1,-2xy;3,1,-89z;0,2;4,6",
   ",1;3,1,-8bg;3,1,-8al;3,1,-8bj;3,1,-8bi;0,1;3,1,1;0,2;3,1,1;0,6;3,1,-8pe;3,1,-8p3;3,2,-8c",
   "f;4,2s,1;0,7;4,4,1;0,3;3,1,1;0,1;1,5;0,19;1,1;0,1;1,5;0,1;1,2;0,1k;1,7;3,1,-e;0,1;1,e;0,",
   "o;1,9;0,7;1,1;0,7;1,1;0,7;1,1;0,7;1,1;0,7;1,1;0,7;1,1;0,7;1,1;0,7;1,1;0,3i;1,y;0,q;1,1;0",
   ",4;3,1,c32;0,2b;3,1,m98;1,c;3,1,64g;3,1,65j;3,1,65w;3,1,664;3,1,66t;3,1,680;3,1,686;3,1,",
   "68p;3,1,69e;3,1,6ra;3,1,6sb;3,1,6sg;3,1,6t2;3,1,6tl;3,1,6u5;3,1,6vl;3,1,6w5;3,1,6wf;3,1,",
   "70p;3,1,73a;3,1,741;3,1,745;3,1,74y;3,1,756;3,1,75w;3,1,768;3,1,76w;3,1,78b;3,1,78s;3,1,",
   "79i;3,1,7uh;3,1,7wg;3,1,897;3,1,89t;3,1,8a0;3,1,8aa;3,1,8ar;3,1,8cu;3,1,8q2;3,1,8rd;3,1,",
   "8uo;3,1,8va;3,1,8vs;3,1,8wd;3,1,8xu;3,1,8xw;3,1,97x;3,1,986;3,1,98h;3,1,98t;3,1,9c0;3,1,",
   "9c7;3,1,9cb;3,1,9fj;3,1,9fs;3,1,9g4;3,1,9gb;3,1,9hz;3,1,9if;3,1,9iw;3,1,9l3;3,1,a17;3,1,",
   "a2g;3,1,a30;3,1,anj;3,1,ann;3,1,apx;3,1,aqc;3,1,aqo;3,1,ar8;3,1,asa;3,1,ase;3,1,azs;3,1,",
   "b0f;3,1,b1a;3,1,bth;3,1,bva;3,1,bvw;3,1,bxh;3,1,by4;3,1,byc;3,1,byi;3,1,bzx;3,1,c01;3,1,",
   "c0w;3,1,cuu;3,1,d78;3,1,d7j;3,1,d7n;3,1,d7q;3,1,d7x;3,1,d8e;3,1,d8f;3,1,dan;3,1,dgm;3,1,",
   "dgq;3,1,dq4;3,1,dqd;3,1,drq;3,1,drw;3,1,ds4;3,1,dsb;3,1,dut;3,1,duz;3,1,e1a;3,1,e1g;3,1,",
   "e2s;3,1,e38;3,1,e4i;3,1,eb2;3,1,eb8;3,1,ebo;3,1,ekq;3,1,eo7;3,1,eoc;3,1,etd;3,1,evr;3,1,",
   "ex0;3,1,f7h;3,1,fb5;3,1,fr2;3,1,frs;3,1,ftc;3,1,fuq;3,1,fwl;3,1,fwv;3,1,fx0;3,1,fxw;3,1,",
   "fzz;3,1,g08;3,1,g9t;3,1,g9z;3,1,ga7;3,1,gaf;3,1,gau;3,1,gb8;3,1,gbb;3,1,gdh;3,1,gdk;3,1,",
   "gdp;3,1,h4x;3,1,h5q;3,1,hiq;3,1,hj1;3,1,hjn;3,1,hrh;3,1,hrt;3,1,htr;3,1,hv0;3,1,iaq;3,1,",
   "ib4;3,1,ibi;3,1,icg;3,1,idg;3,1,iiy;3,1,ij9;3,1,il3;3,1,iry;3,1,iss;3,1,iyk;3,1,iz4;3,1,",
   "iz8;3,1,j5b;3,1,jae;3,1,jdu;3,1,jdz;3,1,je3;3,1,k40;3,1,k48;3,1,k8j;3,1,kcs;3,1,kcu;3,1,",
   "ke4;3,1,kh0;3,1,khc;3,1,khf;3,1,khl;3,1,kka;3,1,kl7;3,1,klc;3,1,klp;3,1,kqb;3,1,krp;3,1,",
   "krs;3,1,kwu;3,1,kww;3,1,kxe;3,1,l4d;3,1,l5o;3,1,l5u;3,1,l7r;3,1,l80;3,1,l82;3,1,l8b;3,1,",
   "l94;3,1,lk2;3,1,lv5;3,1,lve;3,1,lwf;3,1,lx0;3,1,lx7;3,1,lxg;3,1,lxj;3,1,lym;3,1,lyp;3,1,",
   "lz5;3,1,lz9;3,1,lzl;3,1,m0b;3,1,m0p;3,1,m0w;3,1,m2i;3,1,m2w;3,1,m2z;1,16;3,1,-9gg;0,1;3,",
   "1,-9g4;0,1f;3,1,-10;0,1;3,1,6x5;3,2,6x7;0,5;1,1;0,2e;1,2;0,2;5,1,w,9ll;5,1,w,9lm;0,2;5,1",
   ",9l4,9l6;0,2n;5,1,9mb,9mw;1,5;0,17;1,1;3,2,-6cx;3,1,-689;3,1,-6cy;3,2,-689;3,3,-6d0;3,6,",
   "-68a;3,1,-6cm;3,3,-6d7;3,1,-6cj;3,a,-6d8;3,l,-6b2;2,1;3,2,-6dt;3,2,-68w;3,1,-68t;3,1,-68",
   "s;3,1,-68o;3,1,-68l;3,1,-68k;3,1,-6du;3,1,-68i;3,1,-68h;3,2,-6dw;3,1,-6dv;3,2,-6du;3,1,-",
   "6dr;3,1,-6dq;3,5,-6dp;3,1,-6dn;3,1,-6dk;3,1,-6db;3,1,-6d5;3,1,-6d1;3,2,-68h;3,3,-6ct;3,2",
   ",-6bn;3,1,-6bl;3,2,-6bd;3,1,-6bc;3,1,-6b3;3,1,-6b1;1,1;0,2;3,1,5m6;3,1,5q1;3,1,5md;3,1,7",
   "d2;3,1,5mc;3,1,5na;3,1,5mb;3,1,dcp;3,1,5of;3,1,5mm;3,1,5lx;3,1,7t8;3,1,7f6;3,1,5qz;0,1y;",
   "1,a;0,g;5,1,14,3cw,15;5,1,14,3cy,15;5,1,14,3cz,15;5,1,14,3d1,15;5,1,14,3d2,15;5,1,14,3d3",
   ",15;5,1,14,3d5,15;5,1,14,3d7,15;5,1,14,3d8,15;5,1,14,3da,15;5,1,14,3db,15;5,1,14,3dc,15;",
   "5,1,14,3dd,15;5,1,14,3de,15;5,1,14,xz4,15;5,1,14,yvs,15;5,1,14,zc4,15;5,1,14,108s,15;5,1",
   ",14,10p4,15;5,1,14,115g,15;5,1,14,1224,15;5,1,14,12ys,15;5,1,14,13f4,15;5,1,14,14bs,15;5",
   ",1,14,14s4,15;5,1,14,158g,15;5,1,14,15os,15;5,1,14,1654,15;5,1,14,13p8,15;5,1,14,1350,13",
   "ic,15;5,1,14,1350,16f8,15;1,1;5,1,14,feo,15;5,1,14,fik,15;5,1,14,fex,15;5,1,14,h5n,15;5,",
   "1,14,fis,15;5,1,14,g31,15;5,1,14,fer,15;5,1,14,g2z,15;5,1,14,fh9,15;5,1,14,gg1,15;5,1,14",
   ",kco,15;5,1,14,m7f,15;5,1,14,ldg,15;5,1,14,kdk,15;5,1,14,ssx,15;5,1,14,h7j,15;5,1,14,k4l",
   ",15;5,1,14,kkq,15;5,1,14,kcp,15;5,1,14,ny6,15;5,1,14,glp,15;5,1,14,mm1,15;5,1,14,rs1,15;",
   "5,1,14,nz1,15;5,1,14,gc4,15;5,1,14,fkz,15;5,1,14,gos,15;5,1,14,i1y,15;5,1,14,nhf,15;5,1,",
   "14,flt,15;5,1,14,rt3,15;5,1,14,ggk,15;5,1,14,nzh,15;5,1,14,fm9,15;5,1,14,pnu,15;5,1,14,p",
   "o3,15;3,1,6x7;3,1,8qf;3,1,a4h;3,1,eh4;0,8;5,1,34,38,2t;5,1,1e,1d;5,1,1e,1e;5,1,1e,1f;5,1",
   ",1e,1g;5,1,1e,1h;5,1,1e,1i;5,1,1e,1j;5,1,1e,1k;5,1,1e,1l;5,1,1f,1c;5,1,1f,1d;5,1,1f,1e;5",
   ",1,1f,1f;5,1,1f,1g;5,1,1f,1h;3,1,-6lc;3,2,-6lb;3,3,-6la;3,1,-6l9;3,2,-6l8;3,5,-6l7;3,1,o",
   "0i;3,1,ox5;3,1,pdg;3,1,qa3;3,1,qqe;3,1,r6p;3,1,s3c;3,1,szz;3,1,tga;3,1,ucx;3,1,ut8;3,1,v",
   "9j;3,1,vpu;3,1,w65;5,1,14c8,y5c;5,1,13p8,13dk;3,1,t9u;0,1;3,1,5fk;3,1,5jf;3,1,5fr;3,1,76",
   "g;3,1,5jk;3,1,63s;3,1,5fh;3,1,63o;3,1,5hx;3,1,6go;3,1,ada;3,1,c80;3,1,be0;3,1,ae3;3,1,it",
   "f;3,1,780;3,1,a51;3,1,al5;3,1,ad3;3,1,dyj;3,1,6m1;3,1,cmc;3,1,hsb;3,1,dza;3,1,6cc;3,1,e2",
   "n;3,1,d5p;3,1,7o8;3,1,ij1;3,1,619;3,1,6he;3,1,bih;3,1,k11;3,1,5m8;3,1,647;3,1,b7k;3,1,5e",
   "u;3,1,5fs;3,1,5et;3,1,8jj;3,1,6kr;3,1,6fm;3,1,831;3,1,81n;3,1,dh3;3,1,5lg;3,1,hsp;3,1,6g",
   "5;3,1,7l8;5,1,1f,1i;5,1,1f,1j;5,1,1f,1k;5,1,1f,1l;5,1,1g,1c;5,1,1g,1d;5,1,1g,1e;5,1,1g,1",
   "f;5,1,1g,1g;5,1,1g,1h;5,1,1g,1i;5,1,1g,1j;5,1,1g,1k;5,1,1g,1l;5,1,1h,1c;5,1,1d,kco;5,1,1",
   "e,kco;5,1,1f,kco;5,1,1g,kco;5,1,1h,kco;5,1,1i,kco;5,1,1j,kco;5,1,1k,kco;5,1,1l,kco;5,1,1",
   "d,1c,kco;5,1,1d,1d,kco;5,1,1d,1e,kco;5,1,2w,2v;5,1,2t,36,2v;5,1,2t,3a;5,1,30,38,2s;3,1,-",
   "fi;3,1,-fh;3,1,-fg;3,1,-ff;3,2,-fe;3,1,-fd;3,1,-fc;3,1,-fb;3,1,-fa;3,1,-f9;3,1,-f8;3,1,-",
   "f7;3,1,-f6;3,1,-f5;3,1,-f4;3,1,-f3;3,1,-f1;3,1,-f0;3,1,-ez;3,6,-ey;3,1,-ew;3,1,-eu;3,1,-",
   "es;3,1,-eq;3,5,-eo;3,1,-en;3,1,-em;3,6,-el;3,4,-ek;5,1,fl0,gp8;5,1,9lu,9n5,9oc,9mw;5,1,9",
   "lu,9nv,9n9,9lt;5,1,9lu,9o3,9ne,9lu;5,1,9lu,9oc,9nv;5,1,9lw,9mz,9o3,9m8;5,1,9lw,9o3,9mp;5",
   ",1,9ly,9m1,9o3;5,1,9m0,9mh,9m7,9oc,9mx;5,1,9m0,9oc,9m3,9oc;5,1,9m2,9o3,9mh;5,1,9m2,9oc,9",
   "nk;5,1,9m3,9lw,9nu;5,1,9m3,9nt,9mr,9mw;5,1,9m3,9nx,9nu,9oc;5,1,9m4,9nx,9o3;5,1,9m4,9o3,9",
   "ni;5,1,9m6,9m4;5,1,9m6,9mz,9oc;5,1,9m5,9np,9nu,9oc;5,1,9m6,9nv,9mo,9oc;5,1,9m5,9nx;5,1,9",
   "m5,9nx,9m8,9nt,9nk;5,1,9m5,9nx,9nl,9oc,9mw,9nv;5,1,9m5,9nx,9nz,9mr,9mw;5,1,9m8,9nt,9nk;5",
   ",1,9m8,9nt,9nk,9mw,9o3;5,1,9m7,9nv,9mk,9lw,9nx;5,1,9m7,9nx,9oc,9n1;5,1,9m9,9oc,9mh;5,1,9",
   "mb,9nv,9my;5,1,9mb,9oc,9nh;5,1,9md,9lw,9m7,9nv;5,1,9md,9o3,9mp,9oc,9nk;5,1,9mf,9nu,9o3,9",
   "m8;5,1,9mj,9o3,9mp;5,1,9mj,9o3,9mw;5,1,9mo,9oc,9mh;5,1,9mv,9mf;5,1,9mx,9nv;5,1,9mw,9o3;5",
   ",1,9my,9n2;5,1,9n2,9mr,9mw;5,1,9n3,9lw,9ms;5,1,9n5,9oc,9mj,9o3,9mw;5,1,9n5,9oc,9ms;5,1,9",
   "n4,9oc,9nw,9nv;5,1,9n8,9lu,9mh,9mw,9nv;5,1,9n8,9m7,9nv;5,1,9n8,9mb;5,1,9n7,9nv;5,1,9n9,9",
   "lt,9nt,9mr,9mx;5,1,9n9,9lv,9oc,9mw;5,1,9na,9mr,9mf,9lz,9nv;5,1,9n9,9nt,9o3;5,1,9nc,9m7,9",
   "mn,9oc,9nv;5,1,9ne,9ml;5,1,9ne,9mz,9n6;5,1,9nc,9nv,9ms;5,1,9ne,9o3,9mh;5,1,9ne,9oc,9mg;5",
   ",1,9nd,9oc,9mn;5,1,9nh,9lw,9o3,9mw;5,1,9ng,9nv,9mw;5,1,9nf,9o3;5,1,9nh,9o3,9mx;5,1,9nf,9",
   "oc,9nv;5,1,9nf,9oc,9o3;5,1,9ni,9lw,9m7,9nx;5,1,9ni,9lw,9nv;5,1,9ni,9mr,9n3;5,1,9ni,9nv,9",
   "m7;5,1,9ni,9o3,9mf,9nr,9o3;5,1,9nj,9m7,9nx,9o3;5,1,9nj,9nu;5,1,9nj,9nu,9n4,9oc,9nv;5,1,9",
   "nl,9m4;5,1,9nl,9m4,9mw,9o3;5,1,9nl,9oc,9mw,9nv;5,1,9no,9oc,9mx;5,1,9no,9oc,9nv;5,1,9nq,9",
   "lu,9o3;5,1,9nu,9mr,9mw,9nv;5,1,9nu,9nt;5,1,9nv,9n8,9oc;5,1,9nv,9oc,9na,9nv;5,1,9nw,9nk;5",
   ",1,9nw,9o3,9mw,9ma,9o3;5,1,9nz,9mr,9mw;5,1,1c,m9l;5,1,1d,m9l;5,1,1e,m9l;5,1,1f,m9l;5,1,1",
   "g,m9l;5,1,1h,m9l;5,1,1i,m9l;5,1,1j,m9l;5,1,1k,m9l;5,1,1l,m9l;5,1,1d,1c,m9l;5,1,1d,1d,m9l",
   ";5,1,1d,1e,m9l;5,1,1d,1f,m9l;5,1,1d,1g,m9l;5,1,1d,1h,m9l;5,1,1d,1i,m9l;5,1,1d,1j,m9l;5,1",
   ",1d,1k,m9l;5,1,1d,1l,m9l;5,1,1e,1c,m9l;5,1,1e,1d,m9l;5,1,1e,1e,m9l;5,1,1e,1f,m9l;5,1,1e,",
   "1g,m9l;5,1,2w,34,2p;5,1,2s,2p;5,1,2p,39;5,1,2q,2p,36;5,1,33,3a;5,1,34,2r;5,1,2s,31;5,1,2",
   "s,31,1e;5,1,2s,31,1f;5,1,2x,39;5,1,inn,jdc;5,1,k6l,gp8;5,1,hlz,l7n;5,1,k5q,lh7;5,1,kkq,i",
   "rz,fmi,ny6;5,1,34,2p;5,1,32,2p;5,1,qk,2p;5,1,31,2p;5,1,2z,2p;5,1,2z,2q;5,1,31,2q;5,1,2v,",
   "2q;5,1,2r,2p,30;5,1,2z,2r,2p,30;5,1,34,2u;5,1,32,2u;5,1,qk,2u;5,1,qk,2v;5,1,31,2v;5,1,2z",
   ",2v;5,1,2w,3e;5,1,2z,2w,3e;5,1,31,2w,3e;5,1,2v,2w,3e;5,1,38,2w,3e;5,1,qk,30;5,1,31,30;5,",
   "1,2s,30;5,1,2z,30;5,1,2u,31;5,1,32,31;5,1,qk,31;5,1,31,31;5,1,2r,31;5,1,2z,31;5,1,31,31,",
   "1e;5,1,2r,31,1e;5,1,31,1e;5,1,2z,31,1e;5,1,31,31,1f;5,1,2r,31,1f;5,1,31,1f;5,1,2z,31,1f;",
   "5,1,31,6qd,37;5,1,31,6qd,37,1e;5,1,34,2p;5,1,2z,34,2p;5,1,31,34,2p;5,1,2v,34,2p;5,1,36,2",
   "p,2s;5,1,36,2p,2s,6qd,37;5,1,36,2p,2s,6qd,37,1e;5,1,34,37;5,1,32,37;5,1,qk,37;5,1,31,37;",
   "5,1,34,3a;5,1,32,3a;5,1,qk,3a;5,1,31,3a;5,1,2z,3a;5,1,31,3a;5,1,34,3b;5,1,32,3b;5,1,qk,3",
   "b;5,1,31,3b;5,1,2z,3b;5,1,31,3b;5,1,2z,qx;5,1,31,qx;1,1;5,1,2q,35;5,1,2r,2r;5,1,2r,2s;5,",
   "1,2r,6qd,2z,2v;1,1;5,1,2s,2q;5,1,2v,3d;5,1,2w,2p;5,1,2w,34;5,1,2x,32;5,1,2z,2z;5,1,2z,31",
   ";5,1,2z,38;5,1,30,31;5,1,30,32;5,1,30,33,2v;5,1,30,3c;5,1,31,2q;5,1,31,2x,30;5,1,31,33,3",
   "0;5,1,34,2w;1,1;5,1,34,34,31;5,1,34,36;5,1,37,36;5,1,37,3a;5,1,3b,2q;5,1,3a,6qd,31;5,1,2",
   "p,6qd,31;5,1,1d,k4l;5,1,1e,k4l;5,1,1f,k4l;5,1,1g,k4l;5,1,1h,k4l;5,1,1i,k4l;5,1,1j,k4l;5,",
   "1,1k,k4l;5,1,1l,k4l;5,1,1d,1c,k4l;5,1,1d,1d,k4l;5,1,1d,1e,k4l;5,1,1d,1f,k4l;5,1,1d,1g,k4",
   "l;5,1,1d,1h,k4l;5,1,1d,1i,k4l;5,1,1d,1j,k4l;5,1,1d,1k,k4l;5,1,1d,1l,k4l;5,1,1e,1c,k4l;5,",
   "1,1e,1d,k4l;5,1,1e,1e,k4l;5,1,1e,1f,k4l;5,1,1e,1g,k4l;5,1,1e,1h,k4l;5,1,1e,1i,k4l;5,1,1e",
   ",1j,k4l;5,1,1e,1k,k4l;5,1,1e,1l,k4l;5,1,1f,1c,k4l;5,1,1f,1d,k4l;5,1,2v,2p,30;0,m8d;1,3;0",
   ",1j;1,9;0,9o;1,k;4,1a,1;0,i;4,s,1;3,1,-w2a;3,1,-w29;0,2i;1,8;0,y;4,e,1;0,2;4,1q,1;3,1,-1",
   ";0,8;4,4,1;3,1,-r9g;4,a,1;0,3;3,1,1;0,1;3,1,-wmg;0,2;4,4,1;0,2;4,k,1;3,1,-wn8;3,1,-wnj;3",
   ",1,-wnf;3,1,-wn5;3,1,-wn8;0,1;3,1,-wlu;3,1,-wmi;3,1,-wlx;3,1,ps;4,g,1;3,1,-1c;3,1,-wn7;3",
   ",1,-raw;4,4,1;3,1,-wo7;4,g,1;3,1,-wu9;1,k;3,1,-x32;3,1,-x3j;3,1,-x3h;3,1,-x37;3,1,1;0,2;",
   "3,1,-wy9;3,1,-wx2;0,1f;1,3;0,a;1,6;0,1k;1,8;0,1y;1,8;0,c;1,6;0,38;1,b;0,u;1,3;0,26;1,1;0",
   ",b;1,4;0,x;1,1;0,1j;1,9;0,e;1,2;0,a;1,2;0,2v;1,o;0,s;1,a;0,6;1,2;0,6;1,2;0,6;1,9;0,7;1,1",
   ";0,7;1,1;0,18;3,1,-tx;3,1,-12;3,1,-xdf;3,1,-d;0,9;3,1,-xcs;0,2;1,4;3,28,-tzk;0,1a;1,2;0,",
   "a;1,6;0,8mc;1,c;0,n;1,4;0,1d;1,6is;3,1,-lh4;3,1,-sul;3,1,-kzc;3,1,-ldn;3,1,-rar;3,1,-xqr",
   ";3,1,-wm9;5,2,vj0;3,1,-vjs;3,1,-ke1;3,1,-was;3,1,-vk4;3,1,-tuf;3,1,-pt1;3,1,-o0a;3,1,-mo",
   "h;3,1,-mdz;3,1,-m56;3,1,-kn8;3,1,-s9e;3,1,-rne;3,1,-qwt;3,1,-qbd;3,1,-n2z;3,1,-khb;3,1,-",
   "isp;3,1,-xp5;3,1,-wpz;3,1,-s2h;3,1,-qo3;3,1,-mpe;3,1,-hz6;3,1,-us1;3,1,-r3r;3,1,-ms6;3,1",
   ",-m2o;3,1,-tp8;3,1,-nke;3,1,-mbs;3,1,-uhq;3,1,-suq;3,1,-rls;3,1,-qi7;3,1,-km6;3,1,-xif;3",
   ",1,-x2v;3,1,-wup;3,1,-tbg;3,1,-s4e;3,1,-qoy;3,1,-pqk;3,1,-nxv;3,1,-mr3;3,1,-moq;3,1,-l6w",
   ";3,1,-jd2;3,1,-iiy;3,1,-i0w;3,1,-pf3;3,1,-p8d;3,1,-of1;3,1,-n79;3,1,-k6z;3,1,-hxd;3,1,-l",
   "t7;3,1,-voj;3,1,-ugv;3,1,-oo4;3,1,-nuv;3,1,-qn8;3,1,-pdp;3,1,-lfq;3,1,-jf6;3,1,-voy;3,1,",
   "-uzt;3,1,-sah;3,1,-rjn;3,1,-rb3;3,1,-oio;3,1,-obd;3,1,-jk6;3,1,-ww0;3,1,-nuw;3,1,-x2w;3,",
   "1,-x3d;3,1,-p4q;3,1,-oex;3,1,-n6v;3,1,-jj8;3,1,-lp6;3,1,-tqk;3,1,-sbe;3,1,-lsv;3,1,-xt1;",
   "3,1,-v3s;3,1,-ua6;3,1,-qfu;3,1,-q2a;3,1,-wuk;3,1,-pd5;3,1,-xie;3,1,-ud9;3,1,-xui;3,1,-rr",
   "w;3,1,-t81;3,1,-ojs;3,1,-wq0;3,1,-vta;3,1,-prg;3,1,-n51;3,1,-lvp;3,1,-rzq;3,1,-kw1;3,1,-",
   "ru2;3,1,-tpx;3,1,-nf3;3,1,-tlh;3,1,-q35;3,1,-xqh;3,1,-x73;3,1,-x4g;3,1,-smx;3,1,-olw;3,1",
   ",-nil;3,1,-luz;3,1,-khb;3,1,-wwa;3,1,-wn2;3,1,-vm6;3,1,-uja;3,1,-t6m;3,1,-r5y;3,1,-pcr;3",
   ",1,-jq1;3,1,-isd;3,1,-hyp;3,1,-hx7;3,1,-wz3;3,1,-szp;3,1,-s2d;3,1,-kyz;3,1,-umy;3,1,-u0v",
   ";3,1,-txs;3,1,-tfb;3,1,-rcf;3,1,-qx6;3,1,-qa3;3,1,-p8r;3,1,-of6;3,1,-nxk;3,1,-l0y;3,1,-n",
   "1n;3,1,-ktz;3,1,-k7l;3,1,-x39;3,1,-wze;3,1,-wkh;3,1,-r13;3,1,-mam;3,1,-lx3;3,1,-ul5;3,1,",
   "-ucu;3,1,-tnt;3,1,-s1j;3,1,-ors;3,1,-qia;3,1,-xqc;3,1,-w4w;3,1,-v5v;3,1,-usx;3,1,-uc0;3,",
   "1,-qgr;3,1,-qbp;3,1,-o45;3,1,-nze;3,1,-kfx;3,1,-ji4;3,1,-jfv;3,1,-ja4;3,1,-xm2;3,1,-pag;",
   "3,1,-kjn;3,1,-jk0;3,1,-u6w;3,1,-xtg;3,1,-xcx;3,1,-v66;3,1,-v3y;3,1,-t9h;3,1,-se5;3,1,-qu",
   "q;3,1,-pz3;3,1,-n2e;3,1,-ksn;3,1,-htj;3,1,-t31;3,1,-jo8;3,1,-x1a;3,1,-swd;3,1,-st2;3,1,-",
   "rrd;3,1,-rhr;3,1,-qf7;3,1,-q5w;3,1,-pk3;3,1,-on3;3,1,-j8y;3,1,-x9g;3,1,-tyc;3,1,-jmj;3,1",
   ",-xih;3,1,-uyk;3,1,-rn0;3,1,-l2l;3,1,-uh9;3,1,-u51;3,1,-ssj;3,1,-qj8;3,1,-jme;3,1,-x4k;3",
   ",1,-wr3;3,1,-v3u;3,1,-t71;3,1,-syb;3,1,-soq;3,1,-rum;3,1,-qfy;3,1,-q2r;3,1,-o6l;3,1,-mc8",
   ";3,1,-mbr;3,1,-kkd;3,1,-jk8;3,1,-wx8;3,1,-rhu;3,1,-wr4;3,1,-qvy;3,1,-qc7;3,1,-mwm;3,1,-j",
   "m6;3,1,-ihn;3,1,-i1g;3,1,-swt;3,1,-roq;3,1,-npq;3,1,-p4c;3,1,-p20;3,1,-orr;3,1,-qpm;3,1,",
   "-r4y;3,1,-lus;3,1,-xtp;3,1,-ngo;3,1,-x51;3,1,-x6h;3,1,-uor;3,1,-tv3;3,1,-oq5;3,1,-vb3;3,",
   "1,-rtz;3,1,-t3m;3,1,-l3g;3,1,-mgs;3,1,-jp8;3,1,-m7z;3,1,-uns;3,1,-xcc;3,1,-wgd;0,2;3,1,-",
   "vxy;0,1;3,1,-t5q;0,2;3,1,-x87;3,1,-qng;3,1,-pxp;3,1,-pgc;3,1,-pff;3,1,-pf9;3,1,-pe4;3,1,",
   "-jie;3,1,-orj;3,1,-o69;0,1;3,1,-mxa;0,1;3,1,-lyi;0,2;3,1,-kx9;3,1,-krt;0,3;3,1,-j7f;3,1,",
   "-j73;3,1,-j5w;3,1,-i9l;3,1,-ksw;3,1,-jnc;3,1,-xoi;3,1,-xfu;3,1,-xd1;3,1,-x2i;3,1,-x1s;3,",
   "1,-wys;3,1,-wih;3,1,-wfl;3,1,-wcw;3,1,-vzt;3,1,-vwy;3,1,-v6f;3,1,-v66;3,1,-ucp;3,1,-u6u;",
   "3,1,-u5t;3,1,-u32;3,1,-tf6;3,1,-tb4;3,1,-t6a;3,1,-ssf;3,1,-rta;3,1,-ros;3,1,-rhh;3,1,-r1",
   "6;3,1,-qvy;3,1,-qi0;3,1,-pmi;3,1,-phq;3,1,-phg;3,1,-phi;3,1,-phb;3,1,-ph6;3,1,-ph0;3,2,-",
   "pfp;3,1,-pas;3,1,-p90;3,1,-p06;3,1,-okj;3,1,-ojz;3,1,-oig;3,1,-oa0;3,1,-o5y;3,1,-nsf;5,2",
   ",prt;3,1,-nbc;3,1,-mds;3,1,-ma3;3,1,-m01;3,1,-lyi;3,1,-ln5;3,1,-llp;3,1,-l2o;3,1,-kz3;3,",
   "1,-jnp;3,1,-jfu;3,1,-je7;3,1,-ueu;3,1,1sw2;3,1,-nrp;1,2;3,1,-y16;3,1,-xbw;3,1,-xe2;3,1,-",
   "xrn;3,1,-xf3;3,1,-xdh;3,1,-x4f;3,1,-x31;3,1,-wkb;3,1,-wmc;3,1,-wkh;3,1,-wih;3,1,-w0y;3,1",
   ",-vyi;3,1,-vui;3,1,-vu3;3,1,-vmm;3,1,-vh5;3,1,-ur4;3,1,-uqy;3,1,-umz;3,1,-ul4;3,1,-ucu;3",
   ",1,-u9l;3,1,-ubk;3,1,-u7v;3,1,-u96;3,1,-u55;3,1,-u3c;3,1,-ts9;3,1,-tpu;3,1,-tod;3,1,-th6",
   ";3,1,-t99;3,1,-t4r;3,1,-t4o;3,1,-t32;3,1,-s9o;3,1,-s7w;3,1,-rx2;3,1,-rlp;3,1,-rm6;3,1,-r",
   "js;3,1,-rct;3,1,-r3i;3,1,-pva;3,1,-qy1;3,1,-quo;3,1,-qra;3,1,-qi8;3,1,-qe4;3,1,-qco;3,1,",
   "-q6f;3,1,-q6e;3,1,-q1o;3,1,-q18;3,1,-q0k;3,1,-py7;3,1,-pyi;3,1,-pnj;3,1,-pa3;3,1,-p2l;3,",
   "1,-oxf;3,1,-or8;3,1,-on0;3,1,-odv;3,1,-o8d;3,1,-nkx;3,1,-ngl;3,1,-mrg;3,1,-met;3,1,-mcx;",
   "3,1,-mci;3,1,-m4a;3,1,-m2q;3,1,-m40;3,1,-m2j;3,1,-m2n;3,1,-m35;3,1,-m12;3,1,-lyu;3,1,-lo",
   "9;3,1,-l8q;3,1,-l01;3,1,-krv;3,1,-klr;3,1,-jt6;3,1,-jqc;3,1,-jn6;3,1,-jji;3,1,-jij;3,1,-",
   "ji8;3,1,-jgx;3,1,-iwr;3,1,-i0i;3,1,1njv;3,1,1njo;3,1,1ptw;3,1,-11rp;3,1,-10vv;3,1,-10uz;",
   "3,1,1vuc;3,1,1xx6;3,1,24n0;3,1,-i39;3,1,-i17;1,12;5,1,2u,2u;5,1,2u,2x;5,1,2u,30;5,1,2u,2",
   "u,2x;5,1,2u,2u,30;5,2,37,38;1,c;5,1,12s,12u;5,1,12s,12d;5,1,12s,12j;5,1,132,12u;5,1,12s,",
   "12l;1,5;5,1,15l,14k;0,1;5,1,16a,14n;3,1,-1cfy;3,1,-1cgh;3,2,-1cgf;3,3,-1cg9;3,1,-1cfz;3,",
   "1,-1cfy;3,1,-1dku;5,1,161,14x;5,1,161,14y;5,1,161,14s,14x;5,1,161,14s,14y;5,1,15c,14n;5,",
   "1,15c,14o;5,1,15c,14s;5,1,15d,14s;5,1,15e,14s;5,1,15f,14s;5,1,15g,14s;5,1,15h,14s;5,1,15",
   "i,14s;1,1;5,1,15k,14s;5,1,15l,14s;5,1,15m,14s;5,1,15n,14s;5,1,15o,14s;1,1;5,1,15q,14s;1,",
   "1;5,1,15s,14s;5,1,15t,14s;1,1;5,1,15v,14s;5,1,15w,14s;1,1;5,1,15y,14s;5,1,15z,14s;5,1,16",
   "0,14s;5,1,161,14s;5,1,162,14s;5,1,15h,14p;5,1,15d,14v;5,1,15n,14v;5,1,15w,14v;5,1,15c,15",
   "o;5,2,19t;5,4,1a3;5,4,1a6;5,4,1a8;5,4,1a2;5,4,1a7;5,4,1a1;5,4,1b8;5,4,1ba;5,4,1ac;5,4,1a",
   "b;5,4,1ae;5,4,1af;5,2,1al;5,2,1ak;5,2,1am;5,2,1ag;5,2,1aw;5,2,1ap;5,4,1bd;5,4,1bj;5,4,1b",
   "n;5,4,1bl;5,2,1bu;5,4,1bv;5,2,1c0;5,4,1c1;5,4,1by;5,2,1ci;5,2,1cj;0,x;5,4,1bh;5,2,1c7;5,",
   "2,1c6;5,2,1c8;5,1,1c7,19w;5,2,1cb;5,2,1c5;5,2,1c9;5,4,1cg;5,2,18p;5,2,17q,17r;5,2,17q,1c",
   "l;5,2,17q,18o;5,2,17q,1c7;5,2,17q,1c6;5,2,17q,1c8;5,3,17q,1cg;5,3,17q,18p;5,4,1cc;5,1,17",
   "q,17w;5,1,17q,17x;5,1,17q,18l;5,1,17q,18p;5,1,17q,18q;5,1,17s,17w;5,1,17s,17x;5,1,17s,17",
   "y;5,1,17s,18l;5,1,17s,18p;5,1,17s,18q;5,1,17u,17w;5,1,17u,17x;5,1,17u,17y;5,1,17u,18l;5,",
   "1,17u,18p;5,1,17u,18q;5,1,17v,17w;5,1,17v,18l;5,1,17v,18p;5,1,17v,18q;5,1,17w,17x;5,1,17",
   "w,18l;5,1,17x,17w;5,1,17x,18l;5,1,17y,17w;5,1,17y,17x;5,1,17y,18l;5,1,183,17w;5,1,183,17",
   "x;5,1,183,17y;5,1,183,18l;5,1,185,17x;5,1,185,18l;5,1,186,17w;5,1,186,17x;5,1,186,17y;5,",
   "1,186,18l;5,1,187,17x;5,1,187,18l;5,1,188,18l;5,1,189,17w;5,1,189,18l;5,1,18a,17w;5,1,18",
   "a,18l;5,1,18h,17w;5,1,18h,17x;5,1,18h,17y;5,1,18h,18l;5,1,18h,18p;5,1,18h,18q;5,1,18i,17",
   "x;5,1,18i,18l;5,1,18i,18p;5,1,18i,18q;5,1,18j,17r;5,1,18j,17w;5,1,18j,17x;5,1,18j,17y;5,",
   "1,18j,18k;5,1,18j,18l;5,1,18j,18p;5,1,18j,18q;5,1,18k,17w;5,1,18k,17x;5,1,18k,17y;5,1,18",
   "k,18l;5,1,18k,18p;5,1,18k,18q;5,1,18l,17w;5,1,18l,17x;5,1,18l,17y;5,1,18l,18l;5,1,18l,18",
   "p;5,1,18l,18q;5,1,18m,17w;5,1,18m,17x;5,1,18m,17y;5,1,18m,18l;5,1,18m,18p;5,1,18m,18q;5,",
   "1,18n,17w;5,1,18n,18l;5,1,18n,18p;5,1,18n,18q;5,1,18q,17w;5,1,18q,17x;5,1,18q,17y;5,1,18",
   "q,18l;5,1,18q,18p;5,1,18q,18q;5,1,180,19s;5,1,181,19s;5,1,18p,19s;5,1,w,18s,18x;5,1,w,18",
   "t,18x;5,1,w,18u,18x;5,1,w,18v,18x;5,1,w,18w,18x;5,1,w,18x,19s;5,1,17q,181;5,1,17q,182;5,",
   "1,17q,18l;5,1,17q,18m;5,1,17q,18p;5,1,17q,18q;5,1,17s,181;5,1,17s,182;5,1,17s,18l;5,1,17",
   "s,18m;5,1,17s,18p;5,1,17s,18q;5,1,17u,181;5,1,17u,182;5,1,17u,18l;5,1,17u,18m;5,1,17u,18",
   "p;5,1,17u,18q;5,1,17v,181;5,1,17v,182;5,1,17v,18l;5,1,17v,18m;5,1,17v,18p;5,1,17v,18q;5,",
   "1,18h,18p;5,1,18h,18q;5,1,18i,18p;5,1,18i,18q;5,1,18j,17r;5,1,18j,18k;5,1,18j,18l;5,1,18",
   "j,18p;5,1,18j,18q;5,1,18k,18l;5,1,18k,18p;5,1,18k,18q;5,1,18l,17r;5,1,18l,18l;5,1,18m,18",
   "1;5,1,18m,182;5,1,18m,18l;5,1,18m,18m;5,1,18m,18p;5,1,18m,18q;5,1,18p,19s;5,1,18q,181;5,",
   "1,18q,182;5,1,18q,18l;5,1,18q,18m;5,1,18q,18p;5,1,18q,18q;5,1,17q,17w;5,1,17q,17x;5,1,17",
   "q,17y;5,1,17q,18l;5,1,17q,18n;5,1,17s,17w;5,1,17s,17x;5,1,17s,17y;5,1,17s,18l;5,1,17s,18",
   "n;5,1,17u,17w;5,1,17u,17x;5,1,17u,17y;5,1,17u,18l;5,1,17u,18n;5,1,17v,18l;5,1,17w,17x;5,",
   "1,17w,18l;5,1,17x,17w;5,1,17x,18l;5,1,17y,17w;5,1,17y,18l;5,1,183,17w;5,1,183,17x;5,1,18",
   "3,17y;5,1,183,18l;5,1,185,17x;5,1,185,17y;5,1,185,18l;5,1,186,17w;5,1,186,17x;5,1,186,17",
   "y;5,1,186,18l;5,1,187,17x;5,1,188,18l;5,1,189,17w;5,1,189,18l;5,1,18a,17w;5,1,18a,18l;5,",
   "1,18h,17w;5,1,18h,17x;5,1,18h,17y;5,1,18h,18l;5,1,18i,17x;5,1,18i,18l;5,1,18j,17w;5,1,18",
   "j,17x;5,1,18j,17y;5,1,18j,18k;5,1,18j,18l;5,1,18k,17w;5,1,18k,17x;5,1,18k,17y;5,1,18k,18",
   "l;5,1,18k,18n;5,1,18l,17w;5,1,18l,17x;5,1,18l,17y;5,1,18l,18l;5,1,18m,17w;5,1,18m,17x;5,",
   "1,18m,17y;5,1,18m,18l;5,1,18m,18n;5,1,18n,17w;5,1,18n,18l;5,1,18n,19s;5,1,18q,17w;5,1,18",
   "q,17x;5,1,18q,17y;5,1,18q,18l;5,1,18q,18n;5,1,17q,18l;5,1,17q,18n;5,1,17s,18l;5,1,17s,18",
   "n;5,1,17u,18l;5,1,17u,18n;5,1,17v,18l;5,1,17v,18n;5,1,183,18l;5,1,183,18n;5,1,184,18l;5,",
   "1,184,18n;5,1,18j,18k;5,1,18j,18l;5,1,18k,18l;5,1,18m,18l;5,1,18m,18n;5,1,18q,18l;5,1,18",
   "q,18n;5,1,18g,18u,18x;5,1,18g,18v,18x;5,1,18g,18w,18x;5,1,187,18p;5,1,187,18q;5,1,189,18",
   "p;5,1,189,18q;5,1,18a,18p;5,1,18a,18q;5,1,183,18p;5,1,183,18q;5,1,184,18p;5,1,184,18q;5,",
   "1,17x,18p;5,1,17x,18q;5,1,17w,18p;5,1,17w,18q;5,1,17y,18p;5,1,17y,18q;5,1,185,18p;5,1,18",
   "5,18q;5,1,186,18p;5,1,186,18q;5,1,184,17w;5,1,184,17x;5,1,184,17y;5,1,184,18l;5,1,184,18",
   "1;5,1,183,181;5,1,185,181;5,1,186,181;5,1,187,18p;5,1,187,18q;5,1,189,18p;5,1,189,18q;5,",
   "1,18a,18p;5,1,18a,18q;5,1,183,18p;5,1,183,18q;5,1,184,18p;5,1,184,18q;5,1,17x,18p;5,1,17",
   "x,18q;5,1,17w,18p;5,1,17w,18q;5,1,17y,18p;5,1,17y,18q;5,1,185,18p;5,1,185,18q;5,1,186,18",
   "p;5,1,186,18q;5,1,184,17w;5,1,184,17x;5,1,184,17y;5,1,184,18l;5,1,184,181;5,1,183,181;5,",
   "1,185,181;5,1,186,181;5,1,184,17w;5,1,184,17x;5,1,184,17y;5,1,184,18l;5,1,183,18n;5,1,18",
   "4,18n;5,1,187,18l;5,1,183,17w;5,1,183,17x;5,1,183,17y;5,1,184,17w;5,1,184,17x;5,1,184,17",
   "y;5,1,187,18l;5,1,188,18l;5,2,17r,18r;0,i;5,1,17u,17w,18l;5,2,17u,17x,17w;5,1,17u,17x,18",
   "l;5,1,17u,17y,18l;5,1,17u,18l,17w;5,1,17u,18l,17x;5,1,17u,18l,17y;5,2,17w,18l,17x;5,1,17",
   "x,18l,18q;5,1,17x,18l,18p;5,1,183,17x,17w;5,1,183,17w,17x;5,1,183,17w,18p;5,2,183,18l,17",
   "x;5,1,183,18l,17w;5,2,183,18l,18l;5,2,185,17x,17x;5,1,185,18l,18l;5,2,184,17x,18l;5,1,18",
   "4,17w,18q;5,2,184,18l,17y;5,2,184,18l,18l;5,1,186,17x,18p;5,2,186,17y,18l;5,2,187,18l,17",
   "x;5,1,187,18l,18l;5,1,187,18l,18q;5,1,189,17w,18l;5,2,189,18l,18l;5,1,189,18l,18p;5,1,18",
   "a,18l,18l;5,1,18a,18l,18q;5,1,18a,18l,18p;5,2,18h,17y,18l;5,1,18i,18l,17x;5,1,18i,18l,18",
   "l;5,1,18k,17x,18l;5,1,18k,17x,18q;5,1,18k,17x,18p;5,2,18k,17w,17w;5,2,18k,17y,18l;5,2,18",
   "k,18l,17x;5,1,18l,17x,17w;5,1,18l,17x,18l;5,1,18l,17x,18q;5,1,18l,17w,17x;5,1,18l,17w,18",
   "l;5,1,18l,17y,17w;5,1,18l,17y,18l;0,2;5,1,18l,17w,17y;5,1,18n,18l,17w;5,1,18n,18l,18l;5,",
   "1,18m,17x,18l;5,1,18m,17x,18p;5,2,18m,17w,18l;5,1,18m,17w,18p;5,1,18m,18l,18q;5,1,18m,18",
   "l,18p;5,2,18q,18l,18l;5,1,17s,17y,18q;5,1,17u,17w,18q;5,1,17u,17w,18p;5,1,17u,17y,18q;5,",
   "1,17u,17y,18p;5,1,17u,18l,18q;5,1,17u,18l,18p;5,1,17w,18l,18q;5,1,17w,17x,18p;5,1,17w,18",
   "l,18p;5,1,183,17y,18p;5,1,185,17x,18q;5,1,184,17x,18q;5,1,186,17x,18q;5,1,18k,17w,18q;5,",
   "1,18k,18l,18q;5,1,18q,17x,18q;5,1,18q,17w,18q;5,1,18q,18l,18q;5,1,18l,18l,18q;5,1,18i,18",
   "l,18q;5,1,18m,17x,18q;5,1,18i,18l,17x;5,1,18k,17x,18l;5,1,189,18l,18q;5,1,18j,18l,18q;5,",
   "1,18m,17w,17x;5,1,18l,17y,18q;5,1,18k,17w,18l;5,1,18j,18l,18l;5,1,18k,17w,18l;5,1,18m,17",
   "w,17x;5,1,17w,17x,18q;5,1,17x,17w,18q;5,1,18l,17w,18q;5,1,18h,18l,18q;5,1,17s,17x,18q;5,",
   "1,18j,18l,18l;5,1,189,17w,18l;5,1,185,18l,18l;5,1,183,17y,18q;5,1,18m,17w,18q;0,8;1,w;5,",
   "1,185,18k,1ci;5,1,18i,18k,1ci;5,1,17r,18k,18k,18n;5,1,17r,18j,17s,181;5,1,18l,17x,18l,17",
   "z;5,1,185,18k,189,18l;5,1,181,183,18o,18k;5,1,189,18k,18q,18n;5,1,18o,183,18k,18l;5,1,18",
   "5,18k,18p;5,1,185,18k,18p,w,17r,18k,18k,18n,w,189,18k,18q,18n,w,18o,183,18k,18l;5,1,17w,",
   "18k,w,17w,18k,17r,18k,18n;5,1,181,1cc,17r,18k;0,3;2,g;3,1,-1e5g;3,1,-14pc;1,1;3,2,-1e55;",
   "3,1,-1e5w;3,1,-1e53;3,2,-14ox;1,7;0,g;1,1;3,1,-17vh;3,1,-17vj;5,2,2n;3,2,-1e6l;3,1,-1e4c",
   ";3,1,-1e4b;3,2,-14px;3,2,-14q3;3,2,-14qb;3,2,-14qf;3,4,-14qd;0,2;3,1,-1e5o;3,1,-1e5n;5,4",
   ",w,lh;5,3,2n;3,1,-1e78;3,1,-14r4;1,2;3,1,-1e6x;3,1,-1e6z;3,1,-1e6v;3,1,-1e7q;3,1,-17wk;3",
   ",2,-1e7l;3,1,-1e5c;3,1,-1e5b;3,2,-14qx;3,1,-1e7w;3,1,-1e7u;3,2,-1e7r;3,1,-1e7q;3,1,-1e7c",
   ";3,1,-1e7b;3,1,-1e7d;1,1;3,1,-1e6k;3,2,-1e85;3,1,-1e7f;1,4;5,1,w,18r;5,1,18g,18r;5,1,w,1",
   "8s;0,1;5,1,w,18t;1,1;5,1,w,18u;5,1,18g,18u;5,1,w,18v;5,1,18g,18v;5,1,w,18w;5,1,18g,18w;5",
   ",1,w,18x;5,1,18g,18x;5,1,w,18y;5,1,18g,18y;3,2,-1d27;3,2,-1d28;3,2,-1d29;3,2,-1d2a;3,2,-",
   "1d2b;5,3,17q;5,2,17r;5,4,17s;5,2,17t;5,4,17u;5,4,17v;5,4,17w;5,4,17x;5,4,17y;5,2,17z;5,2",
   ",180;5,2,181;5,2,182;5,4,183;5,4,184;5,4,185;5,4,186;5,4,187;5,4,188;5,4,189;5,4,18a;5,4",
   ",18h;5,4,18i;5,4,18j;5,4,18k;5,4,18l;5,4,18m;5,4,18n;5,2,18o;5,2,18p;5,4,18q;5,2,18k,17m",
   ";5,2,18k,17n;5,2,18k,17p;5,2,18k,17r;1,2;2,1;1,1;3,w,-1ecg;3,q,-1ebk;3,10,-1ecg;3,2,-168",
   "q;3,1,-1eer;3,2,-14ye;3,1,-14yr;3,1,-14ru;3,1,-14s4;3,1,-14ue;3,1,-14ud;3,1,-14uc;3,1,-1",
   "4ub;3,1,-14ua;3,1,-14sp;3,1,-14so;3,1,-14sn;3,1,-14to;3,1,-14s4;3,1,-14un;3,1,-14um;3,1,",
   "-14ul;3,1,-14uk;3,2,-14uj;3,1,-14ui;3,1,-14uh;3,1,-14ug;3,1,-14uf;3,1,-14ue;3,1,-14ud;3,",
   "1,-14uc;3,1,-14ub;3,1,-14ua;3,1,-14u9;3,1,-14u8;3,1,-14u6;3,1,-14u5;3,1,-14u4;3,6,-14u3;",
   "3,1,-14u1;3,1,-14tz;3,1,-14tx;3,1,-14tv;3,5,-14tt;3,1,-14ts;3,1,-14tr;3,6,-14tq;3,1,-14t",
   "p;3,1,-14tm;3,2,-14w5;2,1;3,2,-1b4x;3,1,-1b09;3,1,-1b4y;3,2,-1b09;3,3,-1b50;3,6,-1b0a;3,",
   "1,-1b4m;3,3,-1b57;3,1,-1b4j;3,a,-1b58;1,3;3,6,-1b35;1,2;3,6,-1b37;1,2;3,6,-1b39;1,2;3,3,",
   "-1b3b;1,3;3,2,-1ef2;3,1,-1eeu;5,1,w,lg;3,1,-1ef2;3,1,-1ef4;3,1,-183h;1,1;3,1,-178m;3,4,-",
   "17x5;3,1,-174d;3,1,-1737;1,h;0,c;1,1;0,q;1,1;0,j;1,1;0,2;1,1;0,f;1,2;0,e;1,y;0,3f;1,5;0,",
   "3;1,4;0,19;1,3;0,2g;1,1;0,d;1,3;0,1;1,1b;0,1a;1,3m;0,t;1,3;0,1d;1,f;0,s;1,4;0,10;1,9;0,u",
   ";1,5;0,17;1,5;0,u;1,1;0,11;1,4;0,e;1,16;3,14,14;0,3a;1,2;0,a;1,6;3,10,14;1,4;0,10;1,4;0,",
   "14;1,8;0,1g;1,b;0,1;3,b,13;1,1;3,f,13;1,1;3,7,13;1,1;3,2,13;1,1;0,b;1,1;0,f;1,1;0,7;1,1;",
   "0,2;1,3;0,1g;1,c;0,8n;1,9;0,m;1,a;0,8;1,o;0,1;3,2,-1fht;3,1,-1fvh;3,1,-1fjf;3,1,-1fle;1,",
   "1;3,1,-1fj8;3,1,-i76;3,1,-1fj8;3,1,-1fja;3,2,-1flh;3,1,-1a7w;3,1,-1fli;3,1,-1fld;3,1,-1f",
   "jb;3,1,-1fl9;3,1,-1flc;3,1,-1flf;3,1,-1fjt;3,1,-1fu6;3,1,-1fju;3,1,-1flc;3,1,-1fkk;3,2,-",
   "1fjj;3,1,-1flb;3,1,16js;3,1,-iz3;3,1,-1flc;3,1,16jq;3,1,-1fki;3,1,16jp;3,1,-1fvu;3,2,-1f",
   "l9;3,1,-1fzo;3,1,-1fl8;3,1,16jl;3,2,-1fl7;3,1,-1fl6;3,1,-1fk3;3,1,-1fk6;3,1,-i86;3,1,-1f",
   "k7;3,1,-1fl3;3,1,-17b3;1,1;3,1,-1fkz;3,2,-1fki;3,1,-1fkt;3,3,-1fqu;3,1,16j5;3,1,16jo;1,1",
   "x;0,6;1,2;0,1;1,1;0,18;1,1;0,2;1,3;0,1;1,2;0,n;1,1;0,20;1,8;0,9;1,1c;0,j;1,1;0,2;1,5;0,x",
   ";1,3;0,r;1,5;0,r;1,12;0,1k;1,4;0,k;1,2;0,1e;1,1;0,2;1,5;0,8;1,1;0,3;1,1;0,t;1,2;0,3;1,4;",
   "0,a;1,7;0,9;1,7;0,1s;1,w;0,13;1,4;0,c;1,9;0,1i;1,3;0,t;1,2;0,r;1,5;0,q;1,7;0,4;1,c;0,7;1",
   ",28;0,21;1,1j;3,1f,1s;1,d;0,1f;1,7;0,1a;1,8;0,a;1,6;0,g;3,m,w;1,3;0,t;1,8;0,2;1,5s;0,v;1",
   ",1;0,16;1,1;0,3;1,2;0,2;1,g;0,6;1,8;0,9;1,x;0,1a;1,8;0,16;1,m;0,q;1,12;0,s;1,k;0,n;1,9;0",
   ",26;1,4;0,10;1,9;0,1q;1,1;0,5;1,d;0,p;1,7;0,a;1,6;0,1h;1,1;0,i;1,8;0,13;1,9;0,2o;1,1;0,k",
   ";1,b;0,i;1,1;0,1b;1,1q;0,7;1,1;0,1;1,1;0,4;1,1;0,f;1,1;0,b;1,6;0,1n;1,5;0,a;1,6;0,4;1,1;",
   "0,8;1,2;0,2;1,2;0,m;1,1;0,7;1,1;0,2;1,1;0,5;1,1;0,a;1,2;0,2;1,2;0,3;1,2;0,1;1,6;0,1;1,5;",
   "0,7;1,2;0,7;1,3;0,5;1,b;0,a;1,1;0,1;1,2;0,1;1,1;0,12;1,1;0,a;1,1;0,1;1,2;0,1;1,1;0,4;1,1",
   ";0,a;1,1;0,2;1,8;0,2;1,t;0,2k;1,1;0,5;1,u;0,20;1,8;0,a;1,4m;0,1i;1,2;0,12;1,y;0,1x;1,b;0",
   ",a;1,6;0,d;1,j;0,1m;1,6;0,a;1,6;0,k;1,s;0,r;1,2;0,f;1,4;0,n;1,55;0,1o;1,2s;3,w,w;0,1f;1,",
   "c;0,8;1,2;0,1;1,2;0,8;1,1;0,2;1,1;0,u;1,1;0,2;1,2;0,c;1,9;0,a;1,1y;0,8;1,2;0,1a;1,2;0,b;",
   "1,r;0,20;1,8;0,2b;1,d;0,21;1,7;0,a;1,2e;0,8;1,2g;0,y;1,e;0,a;1,6;0,9;1,1;0,19;1,1;0,e;1,",
   "a;0,t;1,3;0,w;1,2;0,m;1,1;0,e;1,21;0,7;1,1;0,2;1,1;0,18;1,3;0,1;1,1;0,2;1,1;0,9;1,8;0,a;",
   "1,6;0,6;1,1;0,2;1,1;0,11;1,1;0,2;1,1;0,6;1,7;0,a;1,6;0,18;1,4;0,a;1,6u;0,p;1,7;0,h;1,1;0",
   ",15;1,3;0,t;1,2d;0,1;1,f;0,1e;1,d;0,pn;1,2u;0,33;1,1;0,5;1,b;0,5g;1,218;0,2r;1,d;0,ts;1,",
   "g;0,m;1,a;0,32z;1,5;0,g7;1,5a1;0,1m;1,1c6;0,ft;1,7;0,v;1,1;0,a;1,4;0,29;1,1;0,a;1,6;0,u;",
   "1,2;0,6;1,a;0,1y;1,a;0,a;1,1;0,7;1,1;0,l;1,5;0,j;1,c0;0,1m;1,5i;3,w,w;0,1n;1,5;3,p,r;1,2",
   ";0,p;1,18;0,23;1,4;0,1l;1,7;0,h;1,1s;0,5;1,b;0,7;1,9;0,5p2;1,15;0,w;1,2p;0,37;1,6pp;0,4;",
   "1,1;0,7;1,1;0,2;1,1;0,83;1,f;0,1;1,t;0,3;1,2;0,1;1,e;0,4;1,8;0,b0;1,1s4;0,2z;1,5;0,d;1,3",
   ";0,9;1,7;0,a;1,2;0,4;2,4;1,318;0,5y;3,q,-2iyd;3,a,-2j0g;0,3;1,3;0,c4;1,6;0,n;1,f;0,h;1,f",
   ";0,1a;1,2;0,n;1,9;0,38;1,1o;0,6u;1,a;0,13;1,2;0,1h;5,1,2jx3,2jxh;5,1,2jx4,2jxh;5,1,2jx4,",
   "2jxh,2jxq;5,1,2jx4,2jxh,2jxr;5,1,2jx4,2jxh,2jxs;5,1,2jx4,2jxh,2jxt;5,1,2jx4,2jxh,2jxu;0,",
   "e;2,8;0,1s;5,1,2jzt,2jxh;5,1,2jzu,2jxh;5,1,2jzt,2jxh,2jxq;5,1,2jzu,2jxh,2jxq;5,1,2jzt,2j",
   "xh,2jxr;5,1,2jzu,2jxh,2jxr;0,16;1,l;0,1y;1,3e;0,k;1,c;0,k;1,c;0,2f;1,9;0,p;1,3r;3,q,-2kd",
   "b;3,q,-2ke1;3,q,-2ker;3,7,-2kfh;1,1;3,i,-2kfh;3,q,-2kg7;3,q,-2kgx;3,1,-2khn;1,1;3,2,-2kh",
   "n;1,2;3,1,-2khn;1,2;3,2,-2khn;1,2;3,4,-2khn;1,1;3,8,-2khn;3,4,-2kid;1,1;3,1,-2kid;1,1;3,",
   "7,-2kid;1,1;3,b,-2kid;3,q,-2kj3;3,q,-2kjt;3,2,-2kkj;1,1;3,4,-2kkj;1,2;3,8,-2kkj;1,1;3,7,",
   "-2kkj;1,1;3,q,-2kl9;3,2,-2klz;1,1;3,4,-2klz;1,1;3,5,-2klz;1,1;3,1,-2klz;1,3;3,7,-2klz;1,",
   "1;3,q,-2kmp;3,q,-2knf;3,q,-2ko5;3,q,-2kov;3,q,-2kpl;3,q,-2kqb;3,q,-2kr1;3,q,-2krr;3,q,-2",
   "ksh;3,q,-2kt7;3,q,-2ktx;3,q,-2kun;3,q,-2kvd;3,1,-2kqb;3,1,-2kj2;1,2;3,h,-2k8n;3,1,-2k8x;",
   "3,7,-2k8n;3,1,-2e9m;3,h,-2k9d;5,2,qr;3,6,-2k9d;3,1,-2eah;3,1,-2k9z;3,1,-2k9x;3,1,-2k9w;3",
   ",1,-2k9l;3,1,-2k9r;3,1,-2k9t;3,h,-2ka9;3,1,-2kaj;3,7,-2ka9;3,1,-2eb8;3,h,-2kaz;5,2,qr;3,",
   "6,-2kaz;3,1,-2ec3;3,1,-2kbl;3,1,-2kbj;3,1,-2kbi;3,1,-2kb7;3,1,-2kbd;3,1,-2kbf;3,h,-2kbv;",
   "3,1,-2kc5;3,7,-2kbv;3,1,-2ecu;3,h,-2kcl;5,2,qr;3,6,-2kcl;3,1,-2edp;3,1,-2kd7;3,1,-2kd5;3",
   ",1,-2kd4;3,1,-2kct;3,1,-2kcz;3,1,-2kd1;3,h,-2kdh;3,1,-2kdr;3,7,-2kdh;3,1,-2eeg;3,h,-2ke7",
   ";5,2,qr;3,6,-2ke7;3,1,-2efb;3,1,-2ket;3,1,-2ker;3,1,-2keq;3,1,-2kef;3,1,-2kel;3,1,-2ken;",
   "3,h,-2kf3;3,1,-2kfd;3,7,-2kf3;3,1,-2eg2;3,h,-2kft;5,2,qr;3,6,-2kft;3,1,-2egx;3,1,-2kgf;3",
   ",1,-2kgd;3,1,-2kgc;3,1,-2kg1;3,1,-2kg7;3,1,-2kg9;5,2,rh;1,2;3,a,-2l5q;3,a,-2l60;3,a,-2l6",
   "a;3,a,-2l6k;3,a,-2l6u;0,i4;1,f;0,5;1,1;0,f;1,uo;0,v;1,6;0,6;1,5x;0,7;1,1;0,h;1,2;0,7;1,1",
   ";0,2;1,1;0,5;1,5;3,9,-2m0w;3,3,-2m0v;3,b,-2m0u;3,1,-2m0s;3,2,-2m0r;3,1,-1pz5;3,1,-2lwy;3",
   ",1,-2m0m;3,1,-2m0l;3,1,-2lwl;3,1,-2ly8;3,1,-2lxd;3,9,-2m1t;3,2,-2m1s;3,2,-2m1q;3,1,-2m1p",
   ";3,6,-2m1o;3,2,-2m1n;3,1,-2lzq;3,1,-2m1e;3,1,-2m1g;3,1,-2m17;3,1,-2lz4;3,1,-1q1n;3,1,-2l",
   "z0;1,x;0,1;1,34;0,19;1,3;0,e;1,2;0,a;1,4;0,2;1,8w;0,v;1,h;0,1m;1,5;0,1;1,cw;0,16;1,5y;0,",
   "17;1,4;0,1;1,5c;0,v;1,1;0,m;1,8;0,2;1,68;0,7;1,1;0,4;1,1;0,2;1,1;0,f;1,1;0,5h;1,2;0,g;1,",
   "15;3,y,y;0,16;1,4;0,a;1,4;0,2;1,lt;0,1w;1,24;0,1p;1,5e;3,2,-2od5;3,1,-2od2;3,1,-2od0;1,1",
   ";3,1,-2ocd;3,1,-2od0;3,1,-2od6;3,1,-2ocx;3,1,-2ocf;3,4,-2ocn;3,1,-2od7;3,1,-2od2;3,1,-2o",
   "cv;3,1,-2od8;3,1,-2ocw;3,1,-2ode;3,1,-2odc;3,2,-2odn;3,1,-2odl;3,1,-2odk;3,1,-2odf;3,1,-",
   "2ode;3,1,-2odd;3,1,-2oby;3,1,-2o9v;3,1,-2oal;3,1,-2oc0;1,1;3,1,-2oe1;3,1,-2ody;1,1;3,1,-",
   "2od9;1,2;3,1,-2oe2;1,1;3,1,-2odb;3,4,-2odj;3,1,-2oe3;3,1,-2ody;3,1,-2odr;3,1,-2oe4;3,1,-",
   "2ods;1,1;3,1,-2oe8;3,2,-2oej;3,1,-2oeh;1,1;3,1,-2oeb;1,1;3,1,-2oe9;1,6;3,1,-2oeu;1,4;3,1",
   ",-2oey;1,1;3,1,-2oe7;1,1;3,1,-2oef;1,1;3,1,-2oef;3,1,-2oez;3,1,-2oeu;1,1;3,1,-2of0;3,1,-",
   "2oeo;1,1;3,1,-2of4;1,2;3,1,-2ofd;1,1;3,1,-2of7;1,1;3,1,-2of5;1,1;3,1,-2obn;1,1;3,1,-2ods",
   ";1,1;3,1,-2oft;3,1,-2ofq;1,1;3,1,-2of1;1,2;3,1,-2ofu;3,1,-2ofl;3,1,-2of3;3,1,-2ofb;1,1;3",
   ",2,-2ofb;3,1,-2ofv;3,1,-2ofq;3,1,-2ofj;3,1,-2ofw;3,1,-2ofk;1,1;3,1,-2og0;3,2,-2ogb;3,1,-",
   "2og9;1,1;3,1,-2og3;3,1,-2og2;3,1,-2og1;3,1,-2oem;1,1;3,1,-2od9;1,1;3,2,-2ogp;3,1,-2ogm;3",
   ",1,-2ogk;3,2,-2ofx;3,1,-2ogk;3,1,-2ogq;3,1,-2ogh;3,1,-2ofz;1,1;3,3,-2og7;3,1,-2ogr;3,1,-",
   "2ogm;3,1,-2ogf;3,1,-2ogs;3,1,-2ogg;3,1,-2ogy;3,1,-2ogw;3,2,-2oh7;3,1,-2oh5;3,1,-2oh4;3,1",
   ",-2ogz;3,1,-2ogy;3,1,-2ogx;1,5;3,1,-2ohl;3,1,-2ohi;3,1,-2ohg;1,1;3,1,-2ogt;3,1,-2ohg;3,1",
   ",-2ohm;3,1,-2ohd;3,1,-2ogv;1,1;3,3,-2oh3;3,1,-2ohn;3,1,-2ohi;3,1,-2ohb;3,1,-2oho;3,1,-2o",
   "hc;3,1,-2ohu;3,1,-2ohs;3,2,-2oi3;3,1,-2oi1;3,1,-2oi0;3,1,-2ohv;3,1,-2ohu;3,1,-2oht;1,1g;",
   "0,2;1,7i;0,18;1,4;0,2s;1,c;0,f;1,2;0,f;1,1;0,f;1,1;0,11;1,b;5,1,1c,18;5,1,1d,18;5,1,1e,1",
   "8;5,1,1f,18;5,1,1g,18;5,1,1h,18;5,1,1i,18;5,1,1j,18;5,1,1k,18;5,1,1l,18;0,5;5,1,14,2p,15",
   ";5,1,14,2q,15;5,1,14,2r,15;5,1,14,2s,15;5,1,14,2t,15;5,1,14,2u,15;5,1,14,2v,15;5,1,14,2w",
   ",15;5,1,14,2x,15;5,1,14,2y,15;5,1,14,2z,15;5,1,14,30,15;5,1,14,31,15;5,1,14,32,15;5,1,14",
   ",33,15;5,1,14,34,15;5,1,14,35,15;5,1,14,36,15;5,1,14,37,15;5,1,14,38,15;5,1,14,39,15;5,1",
   ",14,3a,15;5,1,14,3b,15;5,1,14,3c,15;5,1,14,3d,15;5,1,14,3e,15;5,1,9hw,37,9hx;3,1,-2q4o;3",
   ",1,-2q4a;5,1,2r,2s;5,1,3b,3e;0,1;3,q,-2q4v;5,1,2w,3a;5,1,31,3a;5,1,37,2s;5,1,37,37;5,1,3",
   "4,34,3a;5,1,3b,2r;0,q;5,1,31,2r;5,1,31,2s;5,1,31,36;0,z;5,1,2s,2y;0,t;1,1k;0,q;5,1,9kr,9",
   "jf;5,1,9mb,9mb;3,1,-2gr1;1,d;3,1,-26yt;3,1,-28ca;3,1,-29ty;3,1,-2gr0;3,1,-2avc;3,1,-28sb",
   ";3,1,-1z5f;3,1,-28ry;3,1,-2aus;3,1,-267t;3,1,-241l;3,1,-26bm;3,1,-2a4v;3,1,-27ip;3,1,-2a",
   "a9;3,1,-26b3;3,1,-2a6b;3,1,-21nj;3,1,-239f;3,1,-1ym2;3,1,-28tw;3,1,-29rg;3,1,-24gi;3,1,-",
   "26xe;3,1,-26s3;3,1,-2azt;3,1,-2azl;3,1,-1xwh;3,1,-27uu;3,1,-2ayo;3,1,-29tn;3,1,-26ug;3,1",
   ",-1ygw;3,1,-26zi;3,1,-22ep;3,1,-227t;3,1,-29t8;3,1,-24l1;3,1,-2625;3,1,-2627;3,1,-239h;3",
   ",1,-2a4n;3,1,-29hg;3,1,-1xpq;1,4;5,1,9hw,kdo,9hx;5,1,9hw,fex,9hx;5,1,9hw,fik,9hx;5,1,9hw",
   ",i2x,9hx;5,1,9hw,m9l,9hx;5,1,9hw,jf7,9hx;5,1,9hw,nh3,9hx;5,1,9hw,gd9,9hx;5,1,9hw,k0n,9hx",
   ";1,7;3,1,-27jt;3,1,-29uq;1,e;0,6;1,4a;0,rd;1,3;0,h;1,3;0,d;1,3;0,62;1,6;0,c;1,4;0,1;1,f;",
   "0,c;1,4;0,1k;1,8;0,a;1,6;0,14;1,8;0,u;1,2;0,c;1,4;0,2;1,e;0,9;1,13;0,9k;1,8;0,e;1,2;0,d;",
   "1,3;0,b;1,3;0,1l;1,1;0,1;1,4;0,g;1,2;0,c;1,4;0,a;1,7;0,43;1,1;0,2k;3,a,-2sao;0,1;1,sl;0,",
   "wyo;1,w;0,3dq;1,2;0,4ge;1,2;0,5rl;1,f;0,ha;1,1wi;3,1,-3qo3;3,1,-3qo9;3,1,-3qo1;3,1,-1crl",
   ";3,1,-3qg4;3,1,-3qdz;3,1,-3qdn;3,1,-3qbp;3,1,-3q8e;3,1,-3q7k;3,1,-3q5f;3,1,-3q64;3,1,-3v",
   "qm;3,1,-1brn;3,1,-3q2p;3,1,-3q2j;3,1,-3q24;3,1,-3q1m;3,1,-1bzq;3,1,-3vq2;3,1,-3q25;3,1,-",
   "3q14;3,1,-1byj;3,1,-3q0w;3,1,-3q0k;3,1,-3qkt;3,1,-3q0e;3,1,-3q06;3,1,-k71;3,1,-3pyg;3,1,",
   "-3py3;3,1,-3vpc;3,1,-3pwl;3,1,-3pwb;3,1,-3pv4;3,1,-3pv0;3,1,-3vnz;3,1,-3psu;3,1,-3pst;3,",
   "1,-3ps3;3,1,-3pri;3,2,-3pr8;3,1,-3pqs;3,1,-3ppf;3,1,-3pp8;3,1,-3pp0;3,1,-3poc;3,1,-3po3;",
   "5,3,ghr;3,1,-1b0o;3,1,-3jyd;3,1,-3pm4;3,1,-3plk;3,1,-1as5;3,1,-3pla;3,1,-3pl5;3,1,-3pkl;",
   "3,1,-3pge;3,1,-3pj9;3,1,-3piu;3,1,-3phz;3,1,-3pge;3,1,-3pe3;3,1,-3pde;3,1,-3pbk;3,1,-3pb",
   "5;5,2,gw4;3,1,-3p9q;3,1,-3p99;3,1,-3p92;3,1,-3p8o;3,1,-3oz9;3,1,-3p6u;3,1,-3oza;3,1,-3p4",
   "t;3,1,-3p3v;3,1,-3pzd;3,1,-3omb;3,1,-3ouc;3,1,-3otb;3,1,-3osn;3,1,-3owa;3,1,-3oro;3,1,-3",
   "orq;3,1,-3ooc;3,1,-18xh;3,1,-3omg;3,1,-3omc;3,1,-3oly;3,1,-3olf;3,1,-3ol8;3,1,-3ojh;3,1,",
   "-18l4;3,1,-18jb;3,1,-3ofq;3,1,-3oeg;3,1,-3oe5;3,1,-3ogd;3,1,-3ocg;3,1,-3vcp;3,1,-3vcc;3,",
   "1,-3o81;5,2,i0u;3,1,-17z8;3,1,-3o2y;3,1,-3o2e;3,1,-3o20;3,1,-3o1p;3,1,-17q1;3,1,-3o1f;3,",
   "1,-3o19;3,1,-3ndt;3,1,-3o0j;3,1,-3v91;3,1,-3nyv;3,1,-3nyi;3,1,-3nw9;3,1,-3nxp;3,1,-176f;",
   "3,1,-3nsp;3,1,-176f;3,1,-3nrk;3,1,-3nro;3,1,-3nr8;3,2,-3nog;3,1,-3v4k;3,1,-3nnr;3,1,-3nm",
   "l;3,1,-3nm1;3,1,-3nku;3,1,-3v3a;3,1,-16h2;3,1,-3v2m;3,1,-3niz;3,1,-3nix;3,1,-3niv;3,1,-3",
   "nic;3,1,-gsd;3,1,-3ngy;5,2,3035;3,1,-3gk2;5,2,isi;3,1,-3v0v;3,1,-1333;3,1,-try;3,1,-3nef",
   ";3,1,-3ne7;3,1,-3v08;3,1,-3ncy;3,1,-3nbk;3,1,-3nbb;3,1,-3nae;3,1,-3n6n;3,1,-3uxz;3,1,-3u",
   "yu;3,1,-3n67;3,1,-15g0;3,1,-3n4u;3,1,-3n1a;3,1,-3n17;3,1,-3n16;3,1,-3n19;3,1,-3n00;3,1,-",
   "3mzh;3,1,-3myi;3,1,-3myx;3,1,-3myn;3,1,-3mxd;3,1,-3mwu;3,1,-3mwr;3,1,-3mw2;3,1,-3mvs;3,1",
   ",-3mtz;3,1,-3mro;3,1,-3mqq;3,1,-3mnb;3,1,-14mk;3,1,-3mnw;3,1,-3mpq;3,1,-3mmr;3,1,-3mm1;3",
   ",1,-3mjd;3,1,-14gd;3,1,-3mhp;3,1,-3mkb;3,1,-3ml4;3,1,-3us4;3,1,-3mfu;3,1,-3mfa;3,1,-3meg",
   ";3,1,-3mfj;3,1,-3uqj;3,1,-3m9l;3,1,-3m8t;3,1,-13nk;3,1,-3m5k;3,1,-3lxw;3,1,-3m2s;3,1,-3u",
   "lx;3,1,-3m0u;3,1,-3umg;3,1,-3unh;3,1,-3q68;3,1,-3q66;3,1,-3lxw;3,1,-3m0p;3,1,-3gvd;3,1,-",
   "3svy;3,1,-3lxd;3,1,-3lxa;3,1,-3lx5;3,1,-3lvh;3,1,-3lvt;3,1,-12xm;3,1,-3ul1;3,1,-3lr9;3,1",
   ",-3luj;3,1,-3lov;3,1,-3lnh;3,1,-12t2;3,1,-3lna;3,1,-3lqe;3,1,-3ljm;3,1,-3uiy;3,1,-3lie;3",
   ",1,-3lfq;3,1,-3lds;3,1,-3l8j;3,1,-12dl;3,1,-3l76;3,1,-3ufq;3,1,-3l5a;3,1,-11zd;3,1,-3l3x",
   ";3,1,-3uec;3,1,-3l35;3,1,-3l1x;3,2,-3l17;3,1,-11m2;3,1,-17fx;3,1,-11j3;3,1,-3kx8;3,1,-11",
   "6n;3,1,-3ku5;3,1,-3kts;3,1,-3kwn;3,1,-3krt;3,1,-3kqq;3,1,-3kp6;3,1,-3kqp;3,1,-3kpm;3,1,-",
   "3kp8;3,1,-3kow;3,1,-1148;3,1,-3kr7;3,1,-3kk9;3,1,-3kij;3,1,-3u8n;3,1,-3kg0;3,1,-3kg5;3,1",
   ",-10sc;3,1,-3klx;3,1,-3kbl;3,1,-10oi;3,1,-10n7;3,1,-3k98;3,1,-3k62;3,1,-3k6u;3,1,-3k6y;3",
   ",1,-3u68;3,1,-3k5p;3,1,-3k4b;3,1,-3k4i;3,1,-3k31;3,1,-1c6u;3,1,-3jyv;3,1,-103e;3,1,-3jwi",
   ";3,1,-zuc;3,1,-3jso;3,1,-3jsc;3,1,-3jrm;3,1,-zdn;3,1,-3jqc;3,1,-3jps;3,1,-z5d;3,1,-yz7;3",
   ",1,-3jji;3,1,-3jj2;3,1,-3tz2;3,1,-3jie;5,2,ce0;3,1,-3jdz;3,1,-3jdf;3,1,-3jcv;3,1,-3jcc;3",
   ",1,-3jag;3,1,-3tw8;3,1,-3j80;3,1,-y67;3,1,-3j7c;3,1,-y3p;3,1,-3j60;3,1,-16l6;3,1,-3j1m;3",
   ",1,-xi2;3,1,-xhg;3,1,-xdl;3,1,-3tqa;3,1,-3tpz;3,1,-3ivg;3,1,-x8u;3,1,-x8w;3,1,-x7u;3,1,-",
   "x75;3,2,-3iuf;3,1,-3iug;3,1,-3ita;3,1,-3tow;3,1,-3irj;3,1,-3tol;3,1,-3tme;3,1,-wmo;3,1,-",
   "3im8;3,1,-3ikj;3,1,-3iis;3,1,-3tke;3,1,-w8c;3,1,-3if1;3,1,-w56;3,1,-w40;3,1,-3idj;3,1,-3",
   "ib0;3,1,-3tih;3,1,-3i8p;3,1,-3i8g;3,1,-3i8c;3,1,-vkw;5,2,3b1j;3,1,-3i41;3,1,-3tcu;3,1,-v",
   "5i;3,1,-3hy4;3,1,-3hy2;3,1,-3tbx;3,1,-uzp;3,1,-3hqs;3,1,-3t8n;3,1,-3hq8;3,1,-3hqe;3,1,-3",
   "hpm;3,1,-ued;3,1,-3hmx;3,1,-3t64;3,1,-3hk7;3,1,-3hil;3,1,-3hgr;3,1,-3t4t;3,1,-tvu;3,1,-t",
   "v0;3,1,-3t3v;3,1,-tr0;3,1,-3h8c;3,1,-to9;3,1,-3h7n;3,1,-3h4v;3,1,-3h4l;3,1,-tcx;3,1,-tax",
   ";3,1,-3h25;3,1,-t7a;3,1,-3h1r;3,1,-134x;3,1,-3t0s;3,1,-3h00;3,1,-3gxs;3,1,-3szd;3,1,-3gw",
   "7;3,1,-3oi9;3,1,-stc;3,1,-ssz;3,1,-133q;3,1,-133i;3,1,-3gqy;3,1,-3gqw;3,1,-3e27;3,1,-3sw",
   "z;3,1,-3gn2;3,1,-3gn9;3,1,-3gms;3,1,-3q3j;3,1,-3gma;3,1,-3gm9;3,1,-3gm0;3,1,-3gkw;3,1,-s",
   "4b;3,1,-3gkz;3,1,-3gjg;3,1,-3ghj;3,1,-3gfi;3,1,-3gjd;3,1,-3gf4;3,1,-3gdz;3,1,-3gaw;3,1,-",
   "3gi5;3,1,-3gev;3,1,-3geu;3,1,-3gef;3,1,-rxq;3,1,-rp6;3,1,-rtd;3,1,-3ssc;3,1,-3g6v;3,1,-3",
   "g6u;3,1,-3g5w;3,1,-qg1;3,1,-3g3s;3,1,-rcx;3,1,-3sr5;3,1,-3sr2;3,1,-r9b;3,1,-r1b;3,1,-3sq",
   "v;3,1,-3fxf;3,1,-3fx4;3,1,-3fwu;3,1,-3fwt;3,1,-3fv2;3,1,-3fw0;3,1,-3fsb;3,1,-3ftk;3,1,-3",
   "fpe;3,1,-3fro;3,1,-3fpu;3,1,-3fp4;3,1,-3so8;3,1,-3fmn;3,1,-3fls;3,1,-3snd;3,1,-3fj7;3,1,",
   "-3fj5;3,1,-py6;3,1,-3ffz;3,1,-3fft;3,1,-3slv;3,1,-3ff3;3,1,-3w27;3,1,-pi5;3,1,-pd2;3,1,-",
   "3si7;3,1,-3shz;3,1,-3f3j;3,1,-3f1f;3,1,-3ex3;3,1,-3erh;3,1,-oq3;3,1,-3ep5;3,1,-3eok;3,1,",
   "-3em3;3,1,-3ejk;3,1,-o89;3,1,-1brp;3,1,-3ehb;3,1,-3ehr;3,1,-3egc;3,1,-1blr;3,1,-3ea2;3,1",
   ",-3e7b;3,1,-mxa;3,1,-mwk;3,1,-3dxq;3,1,-3dv6;3,1,-3dub;3,1,-mnr;3,1,-3du3;3,1,-3dm7;3,2,",
   "-3dht;3,1,-3dke;3,1,-3d9u;3,1,-3d93;3,1,-lpv;3,1,-3cyr;3,1,-3ryy;3,1,-3cxl;3,1,-lfe;3,1,",
   "-3rws;3,1,-3cq8;3,1,-3o02;3,1,-3cnm;3,1,-koh;3,1,-kil;3,1,-3rt6;3,1,-3rsz;3,1,-3cii;3,1,",
   "-k4x;3,1,-3rre;3,1,-k13;5,2,u17;3,1,-3cgn;3,1,-jt7;3,1,-3cbk;3,1,-3ro0;3,1,-3c9n;3,1,-3c",
   "66;3,1,-3c5g;3,1,-3c3t;3,1,-3rju;3,1,-iqh;3,1,-3bw8;3,1,-3bnv;3,1,-3bin;3,1,-3rcv;3,1,-3",
   "rc1;3,1,-3bfs;3,1,-hmq;3,1,-3rbt;3,1,-hl9;3,1,-hdx;3,1,-hab;3,1,-3b6i;3,1,-3r9c;3,1,-3b4",
   "u;3,1,-3b4q;3,1,-3b4k;3,1,-3b4b;3,1,-3b45;3,1,-3b35;3,1,-gm5;1,15u;0,3t7;1,5;0,6ju;1,upy",
   ";0,8qo;1,e2m8;2,6o;1,47bk"]

end Gatehouse.Idna
